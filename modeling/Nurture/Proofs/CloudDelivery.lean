import Nurture.Delivery.Cloud
import Nurture.Engine.Step
import Nurture.Proofs.Results

/-!
  What the cloud provider is told, and what it tells

  A delivery posts a plain text once, or a template and then, if the template was not accepted, the
  plain text. So the provider accepts at most one post, whatever it replies, and the sender answers
  with what the last reply means (`Came`). Where no post was accepted this is a delivery failure and
  nothing else (`sendHybrid_reported`).

  The sender returns exactly if the accepted post was answered with JSON. Where it was answered with
  anything else, the message is delivered, and the sender breaks (`Outage.accepted_and_broke`).
-/

namespace Nurture.Delivery.Cloud

/-! ## Payloads -/

theorem cleanPhone_str (number : String) : ∃ digits, cleanPhone (.str number) = .ok digits := by
  have hdigits : ∀ j ∈ number.toList.map fun c => Json.str (String.singleton c),
      ∃ part, digitsOnly j = .ok part := by
    intro j hj
    obtain ⟨c, -, rfl⟩ := List.mem_map.mp hj
    exact ⟨_, rfl⟩
  obtain ⟨parts, hparts⟩ := exists_forall₂ hdigits
  refine ⟨String.join parts, bind_eq_ok_iff.mpr ⟨_, rfl, ?_⟩⟩
  exact bind_eq_ok_iff.mpr ⟨parts, mapM_eq_ok_iff.mpr hparts, rfl⟩

theorem textPayload_str (recipient : String) (text : Json) :
    ∃ plain, textPayload (.str recipient) text = .ok plain := by
  obtain ⟨digits, hdigits⟩ := cleanPhone_str recipient
  exact ⟨_, bind_eq_ok_iff.mpr ⟨digits, hdigits, rfl⟩⟩

theorem templatePayload_str (a : Account) (recipient : String) (template : Json)
    (values : List Json) :
    ∃ posted, templatePayload a (.str recipient) template (.arr values) = .ok posted := by
  obtain ⟨digits, hdigits⟩ := cleanPhone_str recipient
  have hcomponents : ∃ fields, components (.arr values) = .ok fields := by
    unfold components
    split
    · exact ⟨_, rfl⟩
    · exact ⟨_, rfl⟩
  obtain ⟨fields, hfields⟩ := hcomponents
  exact ⟨_, bind_eq_ok_iff.mpr ⟨fields, hfields, bind_eq_ok_iff.mpr ⟨digits, hdigits, rfl⟩⟩⟩

theorem isTried_str (template : String) :
    isTried (.str template) = true ↔ ¬ (template = "" ∨ template = Step.plainTextOnly) := by
  have hgiven : (Json.str template).isGiven = true ↔ template ≠ "" := by
    simp [Json.isGiven]
  have hsame : (Json.str template).same (.str "FORCE_FALLBACK") = true
      ↔ template = Step.plainTextOnly := by
    simp [Json.same, Json.sameScalar, Step.plainTextOnly]
  rw [isTried, Bool.and_eq_true, hgiven, Bool.not_eq_true', ← Bool.not_eq_true, hsame, not_or]

/-! ## Posts and their replies -/

/-- The next reply. A provider that has no more to say accepts. -/
def nextReply (replies : List Reply) : Reply := replies.head?.getD (.accepted (.obj []))

/-- The replies to so many posts. -/
def repliesTo (replies : List Reply) : Nat → List Reply
  | 0 => []
  | k + 1 => nextReply replies :: repliesTo replies.tail k

section
variable {a : Account} {recipient template values text plain posted : Json} (c : Course)

theorem post_eq (payload : Json) :
    post payload c = ((nextReply c.replies).result,
      { c with posts := c.posts ++ [payload], replies := c.replies.tail }) := by
  unfold post nextReply
  cases c.replies with
  | nil => rfl
  | cons r rest => rfl

theorem sendTemplate_eq (h : templatePayload a recipient template values = .ok posted) :
    sendTemplate a recipient template values c = ((nextReply c.replies).result,
      { c with posts := c.posts ++ [posted], replies := c.replies.tail }) := by
  rw [sendTemplate, h, ← post_eq]
  rfl

theorem fallBack_eq (h : textPayload recipient text = .ok plain) :
    (fallBack recipient text c).1 = (nextReply c.replies).result.map (fun _ => ()) ∧
      (fallBack recipient text c).2.posts = c.posts ++ [plain] := by
  have hsend : sendText recipient text c = ((nextReply c.replies).result,
      { c with posts := c.posts ++ [plain], replies := c.replies.tail }) := by
    rw [sendText, h, ← post_eq]
    rfl
  unfold fallBack
  rw [hsend]
  cases (nextReply c.replies).result with
  | ok body => exact ⟨rfl, rfl⟩
  | error e => exact ⟨rfl, rfl⟩

end

/-! ## Deliveries -/

/-- The replies to the posts of a delivery, and its answer. -/
inductive Came : List Reply → Except Failure Unit → Prop
  /-- The last post decides. -/
  | last (r : Reply) : Came [r] (r.result.map fun _ => ())
  /-- After a post that was refused there is another one. -/
  | refused (reason : String) {replies : List Reply} {answer : Except Failure Unit}
      (h : Came replies answer) : Came (.refused reason :: replies) answer

/-- A delivery made the posts, and the replies to them led to its answer. -/
structure Posted (c : Course) (delivery : Except Failure Unit × Course) (made : List Json) :
    Prop where
  posts_eq : delivery.2.posts = c.posts ++ made
  came : Came (repliesTo c.replies made.length) delivery.1

/-- What the answer of a delivery says about the replies to its posts. -/
structure Reported (replies : List Reply) (answer : Except Failure Unit) : Prop where
  accepted_le : replies.countP Reply.isAccepted ≤ 1
  /-- A delivery failure means that no post was accepted. -/
  undelivered : (∃ reason, answer = .error (.undelivered reason)) ↔
    ∀ r ∈ replies, r.isAccepted = false
  returned : answer = .ok () ↔ ∃ body, .accepted body ∈ replies
  /-- Any other exception means that a post was accepted, and not answered with JSON. -/
  raised : (∃ e, answer = .error e ∧ ∀ reason, e ≠ .undelivered reason) ↔
    ∃ reason, .unreadable reason ∈ replies

theorem reported_last {r : Reply} (hworks : ∀ reason, r ≠ .broken reason) :
    Reported [r] (r.result.map fun _ => ()) := by
  cases r with
  | accepted body => constructor <;> simp [Reply.isAccepted, Reply.result, Except.map]
  | unreadable reason => constructor <;> simp [Reply.isAccepted, Reply.result, Except.map]
  | refused reason => constructor <;> simp [Reply.isAccepted, Reply.result, Except.map]
  | broken reason => exact absurd rfl (hworks reason)

theorem Came.reported {replies : List Reply} {answer : Except Failure Unit}
    (h : Came replies answer) (hworks : ∀ reason, .broken reason ∉ replies) :
    Reported replies answer := by
  induction h with
  | last r => exact reported_last fun reason h => hworks reason (h ▸ List.mem_singleton_self r)
  | refused reason h ih =>
    obtain ⟨haccepted, hundelivered, hreturned, hraised⟩ :=
      ih fun reason hmem => hworks reason (List.mem_cons_of_mem _ hmem)
    -- A refusal is neither accepted nor answered.
    refine ⟨?_, ?_, ?_, ?_⟩
    · rwa [List.countP_cons_of_neg (by simp [Reply.isAccepted])]
    · rw [hundelivered, List.forall_mem_cons]
      simp [Reply.isAccepted]
    · rw [hreturned]
      simp
    · rw [hraised]
      simp

/-- Where every accepted post is answered with JSON, a delivery returns exactly if a post is
accepted, and this is all that it takes. -/
theorem Reported.returned_iff_accepted {replies : List Reply} {answer : Except Failure Unit}
    (h : Reported replies answer) :
    (answer = .ok () ↔ ∃ r ∈ replies, r.isAccepted = true) ↔
      ∀ reason, .unreadable reason ∉ replies := by
  constructor
  · intro hiff reason hmem
    obtain ⟨e, he, -⟩ := h.raised.mpr ⟨reason, hmem⟩
    rw [hiff.mpr ⟨_, hmem, rfl⟩] at he
    cases he
  · intro hread
    rw [h.returned]
    constructor
    · rintro ⟨body, hmem⟩
      exact ⟨_, hmem, rfl⟩
    · rintro ⟨r, hmem, haccepted⟩
      cases r with
      | accepted body => exact ⟨body, hmem⟩
      | unreadable reason => exact absurd hmem (hread reason)
      | refused reason => cases haccepted
      | broken reason => cases haccepted

/-! ## The sender -/

section
variable {a : Account} {recipient template values text plain posted : Json} (c : Course)

theorem sendHybrid_plain (htried : isTried template = false)
    (hplain : textPayload recipient text = .ok plain) :
    Posted c (sendHybrid a recipient template values text c) [plain] := by
  obtain ⟨hanswer, hposts⟩ := fallBack_eq c hplain
  unfold sendHybrid
  rw [htried, if_neg Bool.false_ne_true]
  refine ⟨hposts, ?_⟩
  rw [hanswer]
  exact .last _

theorem nextReply_works {replies : List Reply} (hworks : ∀ reason, .broken reason ∉ replies)
    (reason : String) : nextReply replies ≠ .broken reason := by
  cases replies with
  | nil => exact nofun
  | cons r rest =>
    intro h
    obtain rfl : r = .broken reason := h
    exact hworks reason List.mem_cons_self

/-- The template is posted, and after it the plain text exactly if the template was refused. -/
theorem sendHybrid_template (htried : isTried template = true)
    (hposted : templatePayload a recipient template values = .ok posted)
    (hplain : textPayload recipient text = .ok plain)
    (hworks : ∀ reason, .broken reason ∉ c.replies) :
    Posted c (sendHybrid a recipient template values text c)
      (posted :: if (nextReply c.replies).isAccepted = true then [] else [plain]) := by
  unfold sendHybrid
  rw [if_pos htried]
  dsimp only
  rw [sendTemplate_eq c hposted]
  cases hnext : nextReply c.replies with
  | accepted body =>
    refine ⟨rfl, ?_⟩
    show Came [nextReply c.replies] _
    rw [hnext]
    exact .last (.accepted body)
  | unreadable reason =>
    refine ⟨rfl, ?_⟩
    show Came [nextReply c.replies] _
    rw [hnext]
    exact .last (.unreadable reason)
  | refused reason =>
    obtain ⟨hanswer, hposts⟩ := fallBack_eq { c with
      posts := c.posts ++ [posted]
      replies := c.replies.tail
      events := c.events ++ [.templateMessageFailed template.displayText recipient.displayText
        (.undelivered ("WhatsApp Cloud API request failed: " ++ reason))] } hplain
    refine ⟨hposts.trans (List.append_assoc _ _ _), ?_⟩
    show Came [nextReply c.replies, nextReply c.replies.tail] _
    rw [hnext]
    refine .refused reason ?_
    rw [Reply.result]
    dsimp only
    rw [hanswer]
    exact .last _
  | broken reason => exact absurd hnext (nextReply_works hworks reason)

end

theorem repliesTo_works {replies : List Reply} (hworks : ∀ reason, .broken reason ∉ replies)
    (k : Nat) : ∀ reason, .broken reason ∉ repliesTo replies k := by
  induction k generalizing replies with
  | zero => simp [repliesTo]
  | succ k ih =>
    intro reason hmem
    rcases List.mem_cons.mp hmem with h | h
    · exact nextReply_works hworks reason h.symm
    · exact ih (fun reason h => hworks reason (List.mem_of_mem_tail h)) reason h

/-- Whatever the account, the message and the replies of the provider: a delivery makes the posts
that it should, at most one of them is accepted, and its answer says whether one was. It returns
exactly if one was accepted, as long as what is accepted is answered with JSON. -/
theorem sendHybrid_reported (a : Account) (recipient template text : String)
    (values : List String) (c : Course) (hworks : ∀ reason, .broken reason ∉ c.replies) :
    ∃ plain posted made,
      textPayload (.str recipient) (.str text) = .ok plain ∧
      templatePayload a (.str recipient) (.str template) (.arr (values.map .str)) = .ok posted ∧
      made = (if template = "" ∨ template = Step.plainTextOnly then [plain]
        else posted :: if (nextReply c.replies).isAccepted = true then [] else [plain]) ∧
      let delivery :=
        sendHybrid a (.str recipient) (.str template) (.arr (values.map .str)) (.str text) c
      delivery.2.posts = c.posts ++ made ∧
      Reported (repliesTo c.replies made.length) delivery.1 ∧
      ((delivery.1 = .ok () ↔ ∃ r ∈ repliesTo c.replies made.length, r.isAccepted = true) ↔
        ∀ reason, .unreadable reason ∉ repliesTo c.replies made.length) := by
  obtain ⟨plain, hplain⟩ := textPayload_str recipient (.str text)
  obtain ⟨posted, hposted⟩ := templatePayload_str a recipient (.str template) (values.map .str)
  refine ⟨plain, posted, _, hplain, hposted, rfl, ?_⟩
  have hdelivery : Posted c
      (sendHybrid a (.str recipient) (.str template) (.arr (values.map .str)) (.str text) c)
      (if template = "" ∨ template = Step.plainTextOnly then [plain]
        else posted :: if (nextReply c.replies).isAccepted = true then [] else [plain]) := by
    split
    · rename_i hplainOnly
      have htried : isTried (.str template) = false := by
        rw [← Bool.not_eq_true, isTried_str, not_not]
        exact hplainOnly
      exact sendHybrid_plain c htried hplain
    · rename_i htemplate
      exact sendHybrid_template c (isTried_str template |>.mpr htemplate) hposted hplain hworks
  have hreported := hdelivery.came.reported (repliesTo_works hworks _)
  exact ⟨hdelivery.posts_eq, hreported, hreported.returned_iff_accepted⟩

namespace Outage

def account : Account :=
  ⟨.str "123", .str "token", .str "v21.0", .str "pt_BR", .int 15⟩

/-- The template is refused, and the plain text is accepted. -/
def replies : List Reply := [.refused "400 template not approved", .accepted (.obj [])]

/-- A message whose template is refused is delivered as plain text, by the second of two posts. -/
theorem delivered_as_text :
    (∀ reason, .broken reason ∉ (Course.start replies).replies) ∧
    let delivery := sendHybrid account (.str "5511") (.str "new_post") (.arr ([].map .str))
      (.str "Oi") (.start replies)
    delivery.2.posts.length = 2 ∧ delivery.1 = .ok () := by
  have hworks : ∀ reason, .broken reason ∉ (Course.start replies).replies := by
    simp [Course.start, replies]
  obtain ⟨plain, posted, made, -, -, hmade, hposts, hreported, -⟩ :=
    sendHybrid_reported account "5511" "new_post" "Oi" [] (.start replies) hworks
  have htwo : made = [posted, plain] := hmade
  rw [htwo] at hposts hreported
  have haccepted : .accepted (.obj []) ∈ repliesTo (Course.start replies).replies 2 :=
    List.mem_cons_of_mem _ (List.mem_singleton_self _)
  refine ⟨hworks, ?_, hreported.returned.mpr ⟨_, haccepted⟩⟩
  rw [hposts]
  rfl

/-- A page in the place of JSON. -/
def page : Reply := .unreadable "Expecting value: line 1 column 1 (char 0)"

/-- A plain text is accepted and answered with a page: the sender breaks, though the only post was
accepted. -/
theorem accepted_and_broke :
    let delivery := sendHybrid account (.str "5511") (.str Step.plainTextOnly) (.arr []) (.str "Oi")
      (.start [page])
    repliesTo [page] delivery.2.posts.length = [page] ∧ page.isAccepted = true ∧
      delivery.1 = .error (.notJson "Expecting value: line 1 column 1 (char 0)") := by
  exact ⟨rfl, rfl, rfl⟩

end Outage

end Nurture.Delivery.Cloud
