import Nurture.Engine.Trigger

/-!
  The stock funnel

  A funnel that tells every lead of a new post: a WhatsApp message at once, an
  email a day later.
-/

namespace Nurture.Stock

variable {σ : Type}

def alertText : String :=
  "🚀 *Novidade no Blog!*\n\nAcabei de publicar o artigo: \"" ++ placeholder "post_title"
    ++ "\"\n\nConfira agora mesmo: " ++ placeholder "post_url"

def emailSubject : String := "🔥 Novo conteúdo: " ++ placeholder "post_title"

def emailContent : String :=
  "Olá " ++ placeholder "name" ++ ", tem post novo no blog: <a href=\"" ++ placeholder "post_url"
    ++ "\">" ++ placeholder "post_title" ++ "</a>"

/-- The template of the WhatsApp message. -/
def template (id : String) : Template := ⟨id, "Notificação: Novo Post", alertText, "text"⟩

/-- A place on the canvas in whole units. -/
def place (x y : Int) : Position := ⟨.ofInt x, .ofInt y⟩

/-- The nodes: a WhatsApp message, a day's delay, an email. -/
def nodes (templateId whatsAppId delayId emailId : String) : List Node :=
  [ { id := whatsAppId, position := place 100 150,
      task := .whatsApp
        { WhatsAppData.blank with
          customTitle := some "Zap: Novo Post", templateId := some templateId,
          templateTitle := some "WA: Alerta Post" }
        (some delayId) },
    { id := delayId, position := place 350 150,
      task := .delay { DelayData.blank with customTitle := some "Aguardar 24h", hours := 24 }
        (some emailId) },
    { id := emailId, position := place 600 150,
      task := .email
        { EmailData.blank with
          customTitle := some "Email: Novo Post", subject := some emailSubject,
          content := some emailContent }
        none } ]

def funnel (templateId whatsAppId delayId emailId id : String) : Funnel :=
  { id := id, name := "Automação: Distribuição de Novos Posts",
    trigger := Trigger.newPostPublished, isActive := true,
    nodes := nodes templateId whatsAppId delayId emailId, start := some whatsAppId }

/-- A new identifier of the stock. -/
def issueId : Action σ String :=
  Action.issue .stock (·.stock) fun n => { n with stock := n.stock + 1 }

/-- Keeps the template and the funnel, with new identifiers. A funnel that the store
does not keep has no identifier. -/
def create : Action σ Funnel := do
  let templateId ← issueId
  let reply ← Store.saveTemplate ⟨some templateId, template⟩
  let whatsAppId ← issueId
  let delayId ← issueId
  let emailId ← issueId
  let saved ← Action.ofExcept (identified (reply.map (·.id)))
  let draft : Draft Funnel := ⟨none, funnel saved whatsAppId delayId emailId⟩
  let f :=
    match ← Store.saveFunnel draft with
    | .own f => f
    | .foreign _ => draft.settle Draft.unsettled
  Action.note [.stockFunnelCreated f.id]
  return f

end Nurture.Stock
