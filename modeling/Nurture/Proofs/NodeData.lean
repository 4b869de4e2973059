import Nurture.Proofs.StoredGraphs

/-!
  Nodes as data

  A node that has passed its check is written as data, and the data pass the check again. What
  is read back is the node, but for numbers without digits in undeclared fields, which the
  writing loses (`Node.check_toJson`). Two nodes whose data count as the same agree in all but
  the form of their numbers and the order of undeclared fields (`Node.alike_of_same`).
-/

namespace Nurture

open Validation Validation.Checked

/-! ## Dumped data -/

namespace Json

theorem dumpedFields_eq_map (fs : Fields) :
    dumpedFields fs = fs.map fun f => (f.1, dumped f.2) := by
  induction fs with
  | nil => rfl
  | cons f fs ih => rw [dumpedFields, ih, List.map_cons]

mutual

theorem dumped_of_isFinite : ∀ {j : Json}, j.isFinite = true → j.dumped = j
  | null, _ | bool _, _ | int _, _ | str _, _ => rfl
  | real _, h => if_pos h
  | arr _, h => congrArg arr (dumpedItems_of_finite h)
  | obj _, h => congrArg obj (dumpedFields_of_finite h)

theorem dumpedItems_of_finite : ∀ {items : List Json}, areItemsFinite items = true →
    dumpedItems items = items
  | [], _ => rfl
  | j :: items, h => by
    rw [areItemsFinite, Bool.and_eq_true] at h
    rw [dumpedItems, dumped_of_isFinite h.1, dumpedItems_of_finite h.2]

theorem dumpedFields_of_finite : ∀ {fs : Fields}, areFieldsFinite fs = true →
    dumpedFields fs = fs
  | [], _ => rfl
  | (key, j) :: fs, h => by
    rw [areFieldsFinite, Bool.and_eq_true] at h
    rw [dumpedFields, dumped_of_isFinite h.1, dumpedFields_of_finite h.2]

end

/-- No field has one of the names. -/
def Fields.Avoid (fs : Fields) (names : List String) : Prop := ∀ f ∈ fs, f.1 ∉ names

theorem avoid_dumpedFields {fs : Fields} {names : List String} (h : fs.Avoid names) :
    Fields.Avoid (dumpedFields fs) names := by
  rw [dumpedFields_eq_map]
  intro f hf
  obtain ⟨f', hf', rfl⟩ := List.mem_map.mp hf
  exact h f' hf'

end Json

theorem avoid_undeclared (declared : List String) (fs : Json.Fields) :
    Json.Fields.Avoid (undeclared declared fs) declared := by
  intro f hf
  have := (List.mem_filter.mp hf).2
  simpa using this

theorem undeclared_append {declared : List String} {extra : Json.Fields} (fs : Json.Fields)
    (hfs : ∀ f ∈ fs, f.1 ∈ declared) (hextra : extra.Avoid declared) :
    undeclared declared (fs ++ extra) = extra := by
  have hnone : (fs.filter fun f => !declared.contains f.1) = [] :=
    List.filter_eq_nil_iff.mpr fun f hf => by simpa using hfs f hf
  have hall : (extra.filter fun f => !declared.contains f.1) = extra :=
    List.filter_eq_self.mpr fun f hf => by simpa using hextra f hf
  rw [undeclared, List.filter_append, hnone, hall, List.nil_append]

/-! ## Nodes that have passed their check -/

/-- The names of the declared fields of a task's data. -/
def NodeKind.declared : NodeKind → List String
  | email => EmailData.declared
  | whatsApp => WhatsAppData.declared
  | delay => DelayData.declared
  | condition => ConditionData.declared

namespace Task

/-- The task with other undeclared fields. -/
def withExtra (fs : Json.Fields) : Task → Task
  | email data next => email { data with extra := fs } next
  | whatsApp data next => whatsApp { data with extra := fs } next
  | delay data next => delay { data with extra := fs } next
  | condition data ifTrue ifFalse => condition { data with extra := fs } ifTrue ifFalse

theorem withExtra_extra (t : Task) : t.withExtra t.extra = t := by
  cases t <;> rfl

@[simp] theorem extra_withExtra (t : Task) (fs : Json.Fields) : (t.withExtra fs).extra = fs := by
  cases t <;> rfl

@[simp] theorem withExtra_withExtra (t : Task) (fs gs : Json.Fields) :
    (t.withExtra fs).withExtra gs = t.withExtra gs := by
  cases t <;> rfl

@[simp] theorem successors_withExtra (t : Task) (fs : Json.Fields) :
    (t.withExtra fs).successors = t.successors := by
  cases t <;> rfl

/-- A send time and a target are only kept if they are in order. -/
def IsFilledIn : Task → Prop
  | whatsApp data _ => ∀ t ∈ data.sendTime, t ≠ "" ∧ SendTime.accepts t = true
  | condition data _ _ => data.target ≠ ""
  | _ => True

end Task

/-- What a node that has passed its check brings along. -/
structure Node.Proper (n : Node) : Prop where
  id_whole : Text.isWhole n.id = true
  id_ne_empty : n.id ≠ ""
  extra : n.task.extra.Avoid n.kind.declared
  filledIn : n.task.IsFilledIn

/-- The node as it is read back from its data. -/
def Node.dumped (n : Node) : Node :=
  { n with task := n.task.withExtra (Json.dumpedFields n.task.extra) }

theorem Node.dumped_of_finite {n : Node} (h : Json.areFieldsFinite n.task.extra = true) :
    n.dumped = n := by
  rw [dumped, Json.dumpedFields_of_finite h, Task.withExtra_extra]

/-! ### Data that have passed -/

theorem EmailData.avoid_of_check {j : Json} {d : EmailData} (h : EmailData.check j = good d) :
    d.extra.Avoid EmailData.declared := by
  cases j
  case obj fs =>
    obtain ⟨g₂, content, h₂, -, rfl⟩ := applied_eq_good_iff.mp h
    obtain ⟨g₁, subject, h₁, -, rfl⟩ := applied_eq_good_iff.mp h₂
    obtain ⟨title, -, rfl⟩ := mapped_eq_good_iff.mp h₁
    exact avoid_undeclared _ _
  all_goals cases h

theorem checkSendTime_eq_good {j : Json} {time : Option String} (h : checkSendTime j = good time) :
    ∀ t ∈ time, t ≠ "" ∧ SendTime.accepts t = true := by
  unfold checkSendTime at h
  split at h
  · cases h
    nofun
  · rename_i s
    split at h
    · cases h
      nofun
    · split at h
      · rename_i hne haccepts
        cases h
        intro t ht
        obtain rfl := Option.some.inj ht
        exact ⟨hne, haccepts⟩
      · cases h
  · cases h

theorem WhatsAppData.proper_of_check {j : Json} {d : WhatsAppData}
    (h : WhatsAppData.check j = good d) :
    d.extra.Avoid WhatsAppData.declared ∧
      ∀ t ∈ d.sendTime, t ≠ "" ∧ SendTime.accepts t = true := by
  cases j
  case obj fs =>
    obtain ⟨g₄, time, h₄, htime, rfl⟩ := applied_eq_good_iff.mp h
    obtain ⟨g₃, content, h₃, -, rfl⟩ := applied_eq_good_iff.mp h₄
    obtain ⟨g₂, templateTitle, h₂, -, rfl⟩ := applied_eq_good_iff.mp h₃
    obtain ⟨g₁, templateId, h₁, -, rfl⟩ := applied_eq_good_iff.mp h₂
    obtain ⟨title, -, rfl⟩ := mapped_eq_good_iff.mp h₁
    refine ⟨avoid_undeclared _ _, ?_⟩
    rcases defaulted_eq_good_iff.mp htime with ⟨j, -, hj⟩ | ⟨-, rfl⟩
    · exact checkSendTime_eq_good hj
    · nofun
  all_goals cases h

theorem DelayData.avoid_of_check {j : Json} {d : DelayData} (h : DelayData.check j = good d) :
    d.extra.Avoid DelayData.declared := by
  cases j
  case obj fs =>
    obtain ⟨g, hours, hg, -, rfl⟩ := applied_eq_good_iff.mp h
    obtain ⟨title, -, rfl⟩ := mapped_eq_good_iff.mp hg
    exact avoid_undeclared _ _
  all_goals cases h

theorem filledIn_text_ne_empty {fs : Json.Fields} {key value text' : String} (hvalue : value ≠ "")
    (h : filledIn fs key value text = good text') : text' ≠ "" := by
  unfold filledIn at h
  split at h
  · exact (good.inj h).symm ▸ hvalue
  · exact (good.inj h).symm ▸ hvalue
  · rename_i hnotEmpty
    rcases defaulted_eq_good_iff.mp h with ⟨j, hget, hj⟩ | ⟨-, rfl⟩
    · rintro rfl
      exact hnotEmpty (text_eq_good_iff.mp hj ▸ hget)
    · exact hvalue

theorem ConditionData.proper_of_check {j : Json} {d : ConditionData}
    (h : ConditionData.check j = good d) :
    d.extra.Avoid ConditionData.declared ∧ d.target ≠ "" := by
  cases j
  case obj fs =>
    obtain ⟨g₃, value, h₃, -, rfl⟩ := applied_eq_good_iff.mp h
    obtain ⟨g₂, operator, h₂, -, rfl⟩ := applied_eq_good_iff.mp h₃
    obtain ⟨g₁, target, h₁, htarget, rfl⟩ := applied_eq_good_iff.mp h₂
    obtain ⟨title, -, rfl⟩ := mapped_eq_good_iff.mp h₁
    exact ⟨avoid_undeclared _ _, filledIn_text_ne_empty (by decide) htarget⟩
  all_goals cases h

/-- Whatever the data of a node are, they have passed their check or are those that count as given
when none are. -/
theorem of_defaulted {α : Type} {P : α → Prop} {fs : Json.Fields} {key : String} {value a : α}
    {check : Json → Checked α} (h : defaulted fs key value check = good a) (hvalue : P value)
    (hcheck : ∀ j a, check j = good a → P a) : P a := by
  rcases defaulted_eq_good_iff.mp h with ⟨j, -, hj⟩ | ⟨-, rfl⟩
  · exact hcheck j _ hj
  · exact hvalue

/-- The task of a node, from the fields of the node. -/
def Task.checkFields (kind : NodeKind) (fs : Json.Fields) : Checked Task :=
  match kind with
  | .email =>
    Task.email
      <$> defaulted fs "data" .blank EmailData.check
      <*> Node.checkReference fs "next_node_id"
  | .whatsApp =>
    Task.whatsApp
      <$> defaulted fs "data" .blank WhatsAppData.check
      <*> Node.checkReference fs "next_node_id"
  | .delay =>
    Task.delay
      <$> defaulted fs "data" .blank DelayData.check
      <*> Node.checkReference fs "next_node_id"
  | .condition =>
    Task.condition
      <$> defaulted fs "data" .blank ConditionData.check
      <*> Node.checkReference fs "true_node_id"
      <*> Node.checkReference fs "false_node_id"

theorem Node.checkFields_eq (kind : NodeKind) (fs : Json.Fields) :
    Node.checkFields kind fs = (fun frame (_ : Unit) task => Node.mk frame task)
      <$> NodeFrame.checkFields fs <*> Node.checkTag kind fs <*> Task.checkFields kind fs := by
  cases kind <;> rfl

theorem Task.proper_of_checkFields {kind : NodeKind} {fs : Json.Fields} {task : Task}
    (htask : Task.checkFields kind fs = good task) :
    task.extra.Avoid task.kind.declared ∧ task.IsFilledIn := by
  cases kind with
  | email =>
    obtain ⟨g, next, hg, -, rfl⟩ := applied_eq_good_iff.mp htask
    obtain ⟨data, hdata, rfl⟩ := mapped_eq_good_iff.mp hg
    refine ⟨of_defaulted (P := fun d : EmailData => d.extra.Avoid _) hdata ?_
      fun _ _ => EmailData.avoid_of_check, trivial⟩
    exact nofun
  | whatsApp =>
    obtain ⟨g, next, hg, -, rfl⟩ := applied_eq_good_iff.mp htask
    obtain ⟨data, hdata, rfl⟩ := mapped_eq_good_iff.mp hg
    refine of_defaulted (P := fun d : WhatsAppData => d.extra.Avoid WhatsAppData.declared ∧
      ∀ t ∈ d.sendTime, t ≠ "" ∧ SendTime.accepts t = true) hdata ?_
      fun _ _ => WhatsAppData.proper_of_check
    exact ⟨nofun, nofun⟩
  | delay =>
    obtain ⟨g, next, hg, -, rfl⟩ := applied_eq_good_iff.mp htask
    obtain ⟨data, hdata, rfl⟩ := mapped_eq_good_iff.mp hg
    refine ⟨of_defaulted (P := fun d : DelayData => d.extra.Avoid _) hdata ?_
      fun _ _ => DelayData.avoid_of_check, trivial⟩
    exact nofun
  | condition =>
    obtain ⟨g, ifFalse, hg, -, rfl⟩ := applied_eq_good_iff.mp htask
    obtain ⟨g', ifTrue, hg', -, rfl⟩ := applied_eq_good_iff.mp hg
    obtain ⟨data, hdata, rfl⟩ := mapped_eq_good_iff.mp hg'
    refine of_defaulted (P := fun d : ConditionData => d.extra.Avoid ConditionData.declared ∧
      d.target ≠ "") hdata ?_ fun _ _ => ConditionData.proper_of_check
    exact ⟨nofun, by decide⟩

theorem Node.proper_of_check {j : Json} {n : Node} (h : Node.check j = good n) : n.Proper := by
  obtain ⟨-, hne, hwhole⟩ := Node.id_of_check h
  unfold Node.check at h
  split at h
  case h_2 => cases h
  split at h
  · cases h
  split at h
  case h_2 => cases h
  rw [within_eq_good_iff, Node.checkFields_eq] at h
  obtain ⟨g, task, hg, htask, rfl⟩ := applied_eq_good_iff.mp h
  obtain ⟨g', _, hg', -, rfl⟩ := applied_eq_good_iff.mp hg
  obtain ⟨frame, -, rfl⟩ := mapped_eq_good_iff.mp hg'
  obtain ⟨hextra, hfilledIn⟩ := Task.proper_of_checkFields htask
  exact ⟨hwhole, hne, hextra, hfilledIn⟩

/-! ### Reading what was written -/

theorem defaulted_of_get? {α : Type} {fs : Json.Fields} {key : String} {value a : α}
    {check : Json → Checked α} {j : Json} (h : fs.get? key = some j) (hj : check j = good a) :
    defaulted fs key value check = good a :=
  defaulted_eq_good_iff.mpr (.inl ⟨j, h, hj⟩)

theorem optional_text_of_get? {fs : Json.Fields} {key : String} {t : Option String}
    (h : fs.get? key = some (.ofOption t)) : optional fs key text = good t :=
  defaulted_of_get? h (orNull_text_ofOption t)

/-- The declared fields of the data, which stand before the undeclared ones. -/
def EmailData.declaredFields (d : EmailData) : Json.Fields :=
  [("custom_title", .ofOption d.customTitle), ("subject", .ofOption d.subject),
    ("content", .ofOption d.content)]

theorem EmailData.check_toJson {d : EmailData} (h : d.extra.Avoid declared) :
    EmailData.check d.toJson = good { d with extra := Json.dumpedFields d.extra } := by
  have hextra := undeclared_append d.declaredFields (by simp [declaredFields, declared])
    (Json.avoid_dumpedFields h)
  show (EmailData.mk · · · (undeclared declared (d.declaredFields ++ _)))
    <$> optional _ "custom_title" text <*> optional _ "subject" text
    <*> optional _ "content" text = _
  rw [hextra, optional_text_of_get? (t := d.customTitle) rfl,
    optional_text_of_get? (t := d.subject) rfl, optional_text_of_get? (t := d.content) rfl]
  rfl

theorem checkSendTime_ofOption {time : Option String}
    (h : ∀ t ∈ time, t ≠ "" ∧ SendTime.accepts t = true) :
    checkSendTime (.ofOption time) = good time := by
  cases time with
  | none => rfl
  | some t =>
    obtain ⟨hne, haccepts⟩ := h t rfl
    simp only [Json.ofOption, checkSendTime, if_neg hne, haccepts, if_true]

def WhatsAppData.declaredFields (d : WhatsAppData) : Json.Fields :=
  [("custom_title", .ofOption d.customTitle), ("wa_template_id", .ofOption d.templateId),
    ("wa_template_title", .ofOption d.templateTitle), ("content", .ofOption d.content),
    ("send_time", .ofOption d.sendTime)]

theorem WhatsAppData.check_toJson {d : WhatsAppData} (h : d.extra.Avoid declared)
    (htime : ∀ t ∈ d.sendTime, t ≠ "" ∧ SendTime.accepts t = true) :
    WhatsAppData.check d.toJson = good { d with extra := Json.dumpedFields d.extra } := by
  have hextra := undeclared_append d.declaredFields (by simp [declaredFields, declared])
    (Json.avoid_dumpedFields h)
  show (WhatsAppData.mk · · · · · (undeclared declared (d.declaredFields ++ _)))
    <$> optional _ "custom_title" text <*> optional _ "wa_template_id" text
    <*> optional _ "wa_template_title" text <*> optional _ "content" text
    <*> defaulted _ "send_time" none checkSendTime = _
  rw [hextra, optional_text_of_get? (t := d.customTitle) rfl,
    optional_text_of_get? (t := d.templateId) rfl, optional_text_of_get? (t := d.templateTitle) rfl,
    optional_text_of_get? (t := d.content) rfl,
    defaulted_of_get? (j := .ofOption d.sendTime) rfl (checkSendTime_ofOption htime)]
  rfl

def DelayData.declaredFields (d : DelayData) : Json.Fields :=
  [("custom_title", .ofOption d.customTitle), ("hours", .int d.hours)]

theorem DelayData.check_toJson {d : DelayData} (h : d.extra.Avoid declared) :
    DelayData.check d.toJson = good { d with extra := Json.dumpedFields d.extra } := by
  have hextra := undeclared_append d.declaredFields (by simp [declaredFields, declared])
    (Json.avoid_dumpedFields h)
  have hhours : natural (.int d.hours) = good (d.hours : Int) := by
    refine andThen_eq_good_iff.mpr ⟨d.hours, rfl, if_neg ?_⟩
    omega
  show (fun title (hours : Int) =>
      DelayData.mk title hours.toNat (undeclared declared (d.declaredFields ++ _)))
    <$> optional _ "custom_title" text <*> defaulted _ "hours" 0 natural = _
  rw [hextra, optional_text_of_get? (t := d.customTitle) rfl,
    defaulted_of_get? (j := .int d.hours) rfl hhours]
  rfl

theorem literal_name (o : Operator) : literal Operator.names (.str o.name) = good o := by
  cases o <;> rfl

theorem filledIn_of_get? {α : Type} {fs : Json.Fields} {key t : String} {value a : α}
    {check : Json → Checked α} (h : fs.get? key = some (.str t))
    (hempty : t = "" → a = value) (hcheck : t ≠ "" → check (.str t) = good a) :
    filledIn fs key value check = good a := by
  unfold filledIn
  by_cases ht : t = ""
  · subst ht
    simp only [h, hempty rfl]
  · rw [h]
    split
    · rename_i hnull
      cases hnull
    · rename_i hstr
      exact absurd (Json.str.inj (Option.some.inj hstr)) ht
    · exact defaulted_of_get? h (hcheck ht)

def ConditionData.declaredFields (d : ConditionData) : Json.Fields :=
  [("custom_title", .ofOption d.customTitle), ("condition_target", .str d.target),
    ("condition_operator", .str d.operator.name), ("condition_value", .str d.value)]

theorem ConditionData.check_toJson {d : ConditionData} (h : d.extra.Avoid declared)
    (htarget : d.target ≠ "") :
    ConditionData.check d.toJson = good { d with extra := Json.dumpedFields d.extra } := by
  have hextra := undeclared_append d.declaredFields (by simp [declaredFields, declared])
    (Json.avoid_dumpedFields h)
  have hname : d.operator.name ≠ "" := by cases d.operator <;> decide
  show (ConditionData.mk · · · · (undeclared declared (d.declaredFields ++ _)))
    <$> optional _ "custom_title" text <*> filledIn _ "condition_target" "tags" text
    <*> filledIn _ "condition_operator" .contains (literal Operator.names)
    <*> filledIn _ "condition_value" "" text = _
  rw [hextra, optional_text_of_get? (t := d.customTitle) rfl,
    filledIn_of_get? (t := d.target) (a := d.target) rfl (fun h => absurd h htarget) fun _ => rfl,
    filledIn_of_get? (t := d.operator.name) (a := d.operator) rfl (fun h => absurd h hname)
      fun _ => literal_name d.operator,
    filledIn_of_get? (t := d.value) (a := d.value) rfl id fun _ => rfl]
  rfl

theorem Position.check_toJson (p : Position) : Position.check p.toJson = good p := rfl

theorem NodeFrame.checkFields_of_get? {fs : Json.Fields} {frame : NodeFrame}
    (hid : fs.get? "id" = some (.str frame.id)) (hwhole : Text.isWhole frame.id = true)
    (hne : frame.id ≠ "") (hposition : fs.get? "position" = some frame.position.toJson) :
    NodeFrame.checkFields fs = good frame := by
  have hlen : 1 ≤ frame.id.length := by
    rw [Nat.one_le_iff_ne_zero, ne_eq, String.length_eq_zero_iff]
    exact hne
  unfold NodeFrame.checkFields
  rw [required_eq_good_iff.mpr ⟨_, hid, textOf_eq_good_iff.mpr ⟨rfl, hwhole, hlen⟩⟩,
    defaulted_of_get? hposition frame.position.check_toJson]
  rfl

theorem Node.check_of_get? {fs : Json.Fields} {n : Node} {task : Task} (h : n.Proper)
    (hid : fs.get? "id" = some (.str n.id))
    (hposition : fs.get? "position" = some n.position.toJson)
    (htag : fs.get? "type" = some (.str n.kind.tag))
    (htask : Task.checkFields n.kind fs = good task) :
    Node.check (.obj fs) = good { n with task := task } := by
  have hkind : ∀ kind : NodeKind, chosen? kinds (.str kind.tag) = some kind := by
    intro kind
    cases kind <;> decide
  have hliteral : ∀ kind : NodeKind, literal [(kind.tag, ())] (.str kind.tag) = good () := by
    intro kind
    cases kind <;> rfl
  unfold Node.check
  simp only [htag, hkind]
  refine within_eq_good_iff.mpr ?_
  rw [Node.checkFields_eq, checkTag,
    NodeFrame.checkFields_of_get? hid h.id_whole h.id_ne_empty hposition,
    defaulted_of_get? htag (hliteral n.kind), htask]
  rfl

/-- A node that has passed its check passes it again once it was written as data, and is read back
as it is dumped. -/
theorem Node.check_toJson {n : Node} (h : n.Proper) : Node.check n.toJson = good n.dumped := by
  obtain ⟨frame, task⟩ := n
  have hextra := h.extra
  have hfilledIn := h.filledIn
  refine Node.check_of_get? h (by cases task <;> rfl) (by cases task <;> rfl)
    (by cases task <;> rfl) ?_
  cases task with
  | email data next =>
    show Task.email <$> defaulted _ "data" _ _ <*> optional _ "next_node_id" text = _
    rw [defaulted_of_get? (j := data.toJson) rfl (EmailData.check_toJson hextra),
      optional_text_of_get? (t := next) rfl]
    rfl
  | whatsApp data next =>
    show Task.whatsApp <$> defaulted _ "data" _ _ <*> optional _ "next_node_id" text = _
    rw [defaulted_of_get? (j := data.toJson) rfl (WhatsAppData.check_toJson hextra hfilledIn),
      optional_text_of_get? (t := next) rfl]
    rfl
  | delay data next =>
    show Task.delay <$> defaulted _ "data" _ _ <*> optional _ "next_node_id" text = _
    rw [defaulted_of_get? (j := data.toJson) rfl (DelayData.check_toJson hextra),
      optional_text_of_get? (t := next) rfl]
    rfl
  | condition data ifTrue ifFalse =>
    show Task.condition <$> defaulted _ "data" _ _ <*> optional _ "true_node_id" text <*>
      optional _ "false_node_id" text = _
    rw [defaulted_of_get? (j := data.toJson) rfl (ConditionData.check_toJson hextra hfilledIn),
      optional_text_of_get? (t := ifTrue) rfl, optional_text_of_get? (t := ifFalse) rfl]
    rfl

/-! ## Nodes whose data count as the same -/

namespace Json

variable {fs gs extra extra' : Fields} {names : List String}

theorem same_of_get? (key : String) {a b : Json} (h : (obj fs).same (obj gs) = true)
    (ha : fs.get? key = some a) (hb : gs.get? key = some b) : a.same b = true := by
  rw [same, Bool.and_eq_true] at h
  obtain ⟨b', hb', hsame⟩ := get?_of_sameFields h.2 ha
  obtain rfl := Option.some.inj (hb.symm.trans hb')
  exact hsame

theorem eq_of_same_strs {s t : String} (h : (str s).same (str t) = true) : s = t :=
  (str.inj (eq_of_same_str h)).symm

theorem eq_of_same_ofOption {s t : Option String} (h : (ofOption s).same (ofOption t) = true) :
    s = t := by
  cases s with
  | some s => cases t with
    | some t => exact congrArg some (eq_of_same_strs h)
    | none => cases eq_of_same_str h
  | none => cases t with
    | some t => simp [ofOption, same, sameScalar, sameNumber, counted] at h
    | none => rfl

theorem sameFields_append (h : sameFields (fs ++ extra) gs = true) :
    sameFields extra gs = true := by
  induction fs with
  | nil => exact h
  | cons f fs ih =>
    rw [List.cons_append, sameFields, Bool.and_eq_true] at h
    exact ih h.2

theorem Fields.get?_append {key : String} (h : ∀ f ∈ gs, f.1 ≠ key) :
    Fields.get? (gs ++ extra) key = Fields.get? extra key := by
  have hnone : (gs.find? fun f => f.1 == key) = none :=
    List.find?_eq_none.mpr fun f hf => by simpa using h f hf
  rw [Fields.get?, List.find?_append, hnone, Option.none_or]
  rfl

theorem sameFields_of_append (hgs : ∀ g ∈ gs, g.1 ∈ names) (hextra : extra.Avoid names)
    (h : sameFields extra (gs ++ extra') = true) : sameFields extra extra' = true := by
  induction extra with
  | nil => rfl
  | cons f extra ih =>
    obtain ⟨key, a⟩ := f
    have hkey : ∀ g ∈ gs, g.1 ≠ key := by
      rintro g hg rfl
      exact hextra _ List.mem_cons_self (hgs g hg)
    rw [sameFields, Bool.and_eq_true, Fields.get?_append hkey] at h
    rw [sameFields, Bool.and_eq_true]
    exact ⟨h.1, ih (fun f hf => hextra f (List.mem_cons_of_mem _ hf)) h.2⟩

theorem same_extra (fs gs : Fields) (hlen : fs.length = gs.length) (hgs : ∀ g ∈ gs, g.1 ∈ names)
    (hextra : extra.Avoid names) (h : (obj (fs ++ extra)).same (obj (gs ++ extra')) = true) :
    (obj extra).same (obj extra') = true := by
  rw [same, Bool.and_eq_true, beq_iff_eq, List.length_append, List.length_append] at h
  rw [same, Bool.and_eq_true, beq_iff_eq]
  exact ⟨by omega, sameFields_of_append hgs hextra (sameFields_append h.2)⟩

/-- Data that are equal, or count as the same. -/
def Alike (a b : Json) : Prop := a = b ∨ a.same b = true

end Json

/-- Places whose numbers are equal, or count as the same. -/
structure Position.Alike (p q : Position) : Prop where
  x : p.x = q.x ∨ p.x.same q.x = true
  y : p.y = q.y ∨ p.y.same q.y = true

/-- Nodes that agree in all but the form of their numbers and the order of undeclared fields. -/
structure Node.Alike (n m : Node) : Prop where
  id_eq : n.id = m.id
  position : n.position.Alike m.position
  task_eq : n.task.withExtra [] = m.task.withExtra []
  extra : Json.Alike (.obj n.task.extra) (.obj m.task.extra)

theorem Node.Alike.refl (n : Node) : n.Alike n :=
  ⟨rfl, ⟨.inl rfl, .inl rfl⟩, rfl, .inl rfl⟩

theorem Position.alike_of_same {p q : Position} (h : p.toJson.same q.toJson = true) :
    p.Alike q := by
  have hx : (Json.real p.x).same (.real q.x) = true := Json.same_of_get? "x" h rfl rfl
  have hy : (Json.real p.y).same (.real q.y) = true := Json.same_of_get? "y" h rfl rfl
  simp only [Json.same, Json.sameScalar, Json.counted, Json.sameNumber] at hx hy
  exact ⟨.inr hx, .inr hy⟩

/-! ### Kind by kind, the declared data are equal and the undeclared data count as the same -/

theorem EmailData.eq_of_same {d e : EmailData} (hd : d.extra.Avoid declared)
    (h : d.toJson.same e.toJson = true) : { d with extra := [] } = { e with extra := [] } ∧
      (Json.obj (Json.dumpedFields d.extra)).same (.obj (Json.dumpedFields e.extra)) = true := by
  have htitle := Json.eq_of_same_ofOption (Json.same_of_get? "custom_title" h rfl rfl)
  have hsubject := Json.eq_of_same_ofOption (Json.same_of_get? "subject" h rfl rfl)
  have hcontent := Json.eq_of_same_ofOption (Json.same_of_get? "content" h rfl rfl)
  refine ⟨by rw [htitle, hsubject, hcontent], ?_⟩
  exact Json.same_extra d.declaredFields e.declaredFields rfl
    (by simp [declaredFields, declared]) (Json.avoid_dumpedFields hd) h

theorem WhatsAppData.eq_of_same {d e : WhatsAppData} (hd : d.extra.Avoid declared)
    (h : d.toJson.same e.toJson = true) : { d with extra := [] } = { e with extra := [] } ∧
      (Json.obj (Json.dumpedFields d.extra)).same (.obj (Json.dumpedFields e.extra)) = true := by
  have htitle := Json.eq_of_same_ofOption (Json.same_of_get? "custom_title" h rfl rfl)
  have hid := Json.eq_of_same_ofOption (Json.same_of_get? "wa_template_id" h rfl rfl)
  have hname := Json.eq_of_same_ofOption (Json.same_of_get? "wa_template_title" h rfl rfl)
  have hcontent := Json.eq_of_same_ofOption (Json.same_of_get? "content" h rfl rfl)
  have htime := Json.eq_of_same_ofOption (Json.same_of_get? "send_time" h rfl rfl)
  refine ⟨by rw [htitle, hid, hname, hcontent, htime], ?_⟩
  exact Json.same_extra d.declaredFields e.declaredFields rfl
    (by simp [declaredFields, declared]) (Json.avoid_dumpedFields hd) h

theorem DelayData.eq_of_same {d e : DelayData} (hd : d.extra.Avoid declared)
    (h : d.toJson.same e.toJson = true) : { d with extra := [] } = { e with extra := [] } ∧
      (Json.obj (Json.dumpedFields d.extra)).same (.obj (Json.dumpedFields e.extra)) = true := by
  have htitle := Json.eq_of_same_ofOption (Json.same_of_get? "custom_title" h rfl rfl)
  have hhours : (Json.int d.hours).same (.int e.hours) = true :=
    Json.same_of_get? "hours" h rfl rfl
  have hhours : d.hours = e.hours := by
    have : (d.hours : Int) = e.hours := by
      simpa only [Json.same, Json.sameScalar, Json.counted, Json.sameNumber, beq_iff_eq]
        using hhours
    exact Int.ofNat.inj this
  refine ⟨by rw [htitle, hhours], ?_⟩
  exact Json.same_extra d.declaredFields e.declaredFields rfl
    (by simp [declaredFields, declared]) (Json.avoid_dumpedFields hd) h

theorem Operator.name_injective : Function.Injective Operator.name := by
  rintro (_ | _) (_ | _) <;> decide

theorem ConditionData.eq_of_same {d e : ConditionData} (hd : d.extra.Avoid declared)
    (h : d.toJson.same e.toJson = true) : { d with extra := [] } = { e with extra := [] } ∧
      (Json.obj (Json.dumpedFields d.extra)).same (.obj (Json.dumpedFields e.extra)) = true := by
  have htitle := Json.eq_of_same_ofOption (Json.same_of_get? "custom_title" h rfl rfl)
  have htarget := Json.eq_of_same_strs (Json.same_of_get? "condition_target" h rfl rfl)
  have hname := Json.eq_of_same_strs (Json.same_of_get? "condition_operator" h rfl rfl)
  have hvalue := Json.eq_of_same_strs (Json.same_of_get? "condition_value" h rfl rfl)
  refine ⟨by rw [htitle, htarget, Operator.name_injective hname, hvalue], ?_⟩
  exact Json.same_extra d.declaredFields e.declaredFields rfl
    (by simp [declaredFields, declared]) (Json.avoid_dumpedFields hd) h

theorem NodeKind.tag_injective : Function.Injective NodeKind.tag := by
  rintro (_ | _ | _ | _) (_ | _ | _ | _) <;> decide

/-- Nodes whose data count as the same are read back as nodes that agree. -/
theorem Node.alike_of_same {n m : Node} (hn : n.Proper) (h : n.toJson.same m.toJson = true) :
    n.dumped.Alike m.dumped := by
  obtain ⟨⟨id, position⟩, task⟩ := n
  obtain ⟨⟨id', position'⟩, task'⟩ := m
  have hid : id = id' := Json.eq_of_same_strs (Json.same_of_get? "id" h rfl rfl)
  have hposition : position.Alike position' :=
    Position.alike_of_same (Json.same_of_get? "position" h rfl rfl)
  have hkind : task.kind = task'.kind :=
    NodeKind.tag_injective (Json.eq_of_same_strs (Json.same_of_get? "type" h rfl rfl))
  suffices task.withExtra [] = task'.withExtra [] ∧
      (Json.obj (Json.dumpedFields task.extra)).same (.obj (Json.dumpedFields task'.extra))
        = true by
    refine ⟨hid, hposition, ?_, .inr ?_⟩
    · simpa only [dumped, Task.withExtra_withExtra] using this.1
    · simpa only [dumped, Task.extra_withExtra] using this.2
  have hextra := hn.extra
  cases task with
  | email data next =>
    cases task' <;> cases hkind
    obtain ⟨hdata, hsame⟩ := EmailData.eq_of_same hextra (Json.same_of_get? "data" h rfl rfl)
    have hnext := Json.eq_of_same_ofOption (Json.same_of_get? "next_node_id" h rfl rfl)
    exact ⟨congrArg₂ Task.email hdata hnext, hsame⟩
  | whatsApp data next =>
    cases task' <;> cases hkind
    obtain ⟨hdata, hsame⟩ := WhatsAppData.eq_of_same hextra (Json.same_of_get? "data" h rfl rfl)
    have hnext := Json.eq_of_same_ofOption (Json.same_of_get? "next_node_id" h rfl rfl)
    exact ⟨congrArg₂ Task.whatsApp hdata hnext, hsame⟩
  | delay data next =>
    cases task' <;> cases hkind
    obtain ⟨hdata, hsame⟩ := DelayData.eq_of_same hextra (Json.same_of_get? "data" h rfl rfl)
    have hnext := Json.eq_of_same_ofOption (Json.same_of_get? "next_node_id" h rfl rfl)
    exact ⟨congrArg₂ Task.delay hdata hnext, hsame⟩
  | condition data ifTrue ifFalse =>
    cases task' <;> cases hkind
    obtain ⟨hdata, hsame⟩ := ConditionData.eq_of_same hextra (Json.same_of_get? "data" h rfl rfl)
    have htrue := Json.eq_of_same_ofOption (Json.same_of_get? "true_node_id" h rfl rfl)
    have hfalse := Json.eq_of_same_ofOption (Json.same_of_get? "false_node_id" h rfl rfl)
    refine ⟨?_, hsame⟩
    simp only [Task.withExtra, hdata, htrue, hfalse]

end Nurture
