import LineTopology.Editor
import LineTopology.Proofs.WrittenNames

namespace LineTopology.Proofs.EditorLayers

open Editor LinkVerdict ImplicitPort WrittenNames

section Layers

variable (source target request : String)

inductive Unread : String → Prop
  | source {m : Json.Misreading} (h : NodeRecord.reader.run source = .error m) :
      Unread (Document.node.failure m)
  | target {a : NodeRecord} {m : Json.Misreading} (ha : NodeRecord.reader.run source = .ok a)
      (h : NodeRecord.reader.run target = .error m) : Unread (Document.node.failure m)
  | request {a b : NodeRecord} {m : Json.Misreading} (ha : NodeRecord.reader.run source = .ok a)
      (hb : NodeRecord.reader.run target = .ok b) (h : EdgeRequest.reader.run request = .error m) :
      Unread (Document.request.failure m)

structure Reads (a b : NodeRecord) (r : EdgeRequest) : Prop where
  source : NodeRecord.reader.run source = .ok a
  target : NodeRecord.reader.run target = .ok b
  request : EdgeRequest.reader.run request = .ok r

inductive Undescribed (a b : NodeRecord) : String → Prop
  | source {fault : NodeFault} (h : a.lower = .error fault) : Undescribed a b fault.text
  | target {m : Node} {fault : NodeFault} (hm : a.lower = .ok m) (h : b.lower = .error fault) :
      Undescribed a b fault.text

inductive Draws : Link → Prop
  | ends {a b : NodeRecord} {r : EdgeRequest} {m n : Node} (h : Reads source target request a b r)
      (hm : a.lower = .ok m) (hn : b.lower = .ok n) :
      Draws (between m n r.sourceHandle r.targetHandle)

def acceptance : Json := .object [("accepted", .boolean true)]

def rejection (kind reason : String) : Json :=
  .object [("accepted", .boolean false), ("kind", .string kind), ("reason", .string reason)]

/-- The answer that is due to the texts: what is wrong in one layer is told only if nothing is wrong
in the layers before. -/
inductive Due : Json → Prop
  | parse {reason : String} (h : Unread source target request reason) :
      Due (rejection "parse" reason)
  | malformed {a b : NodeRecord} {r : EdgeRequest} {reason : String}
      (hr : Reads source target request a b r) (h : Undescribed a b reason) :
      Due (rejection "malformed" reason)
  | kindMismatch {link : Link} {refusal : Refusal} (hl : Draws source target request link)
      (h : Link.check link = .error refusal) (hc : refusal.concern = .kindMismatch) :
      Due (rejection "kindMismatch" refusal.reason)
  | typeMismatch {link : Link} {refusal : Refusal} (hl : Draws source target request link)
      (h : Link.check link = .error refusal) (hc : refusal.concern = .typeMismatch) :
      Due (rejection "typeMismatch" refusal.reason)
  | accepted {link : Link} (hl : Draws source target request link)
      (h : Link.check link = .ok ()) : Due acceptance

def Refuses (concern : Concern) (reason : String) : Prop :=
  ∃ link refusal, Draws source target request link ∧ Link.check link = .error refusal ∧
    refusal.concern = concern ∧ refusal.reason = reason

structure Layered (answer : Json) : Prop where
  parse : ∀ reason, answer = rejection "parse" reason ↔ Unread source target request reason
  unread : (∃ reason, Unread source target request reason) ↔
    ¬ ∃ a b r, Reads source target request a b r
  malformed : ∀ reason, answer = rejection "malformed" reason ↔
    ∃ a b r, Reads source target request a b r ∧ Undescribed a b reason
  undescribed : ∀ a b, (∃ reason, Undescribed a b reason) ↔
    ¬ ∃ m n, a.lower = .ok m ∧ b.lower = .ok n
  accepted : answer = acceptance ↔
    ∃ link, Draws source target request link ∧ Link.check link = .ok ()
  kindMismatch : ∀ reason, answer = rejection "kindMismatch" reason ↔
    Refuses source target request .kindMismatch reason
  typeMismatch : ∀ reason, answer = rejection "typeMismatch" reason ↔
    Refuses source target request .typeMismatch reason
  total : answer = acceptance ∨
    ∃ kind ∈ ["parse", "malformed", "kindMismatch", "typeMismatch"], ∃ reason,
      answer = rejection kind reason

end Layers

def told : Except Refusal Unit → Json
  | .ok () => acceptance
  | .error refusal => rejection refusal.concern.name refusal.reason

variable {source target request reason kind : String} {a b : NodeRecord} {r : EdgeRequest}
  {link : Link} {answer : Json}

section Texts

theorem unread_iff :
    (∃ reason, Unread source target request reason) ↔
      ¬ ∃ a b r, Reads source target request a b r := by
  constructor
  · rintro ⟨_, hu⟩ ⟨a, b, r, hr⟩
    cases hu with
    | source h => cases h.symm.trans hr.source
    | target _ h => cases h.symm.trans hr.target
    | request _ _ h => cases h.symm.trans hr.request
  · intro hnone
    cases ha : NodeRecord.reader.run source with
    | error m => exact ⟨_, .source ha⟩
    | ok a =>
        cases hb : NodeRecord.reader.run target with
        | error m => exact ⟨_, .target ha hb⟩
        | ok b =>
            cases hr : EdgeRequest.reader.run request with
            | error m => exact ⟨_, .request ha hb hr⟩
            | ok r => exact absurd ⟨a, b, r, ha, hb, hr⟩ hnone

theorem toJson_of_unread (h : Unread source target request reason) :
    (verdict source target request).toJson = rejection "parse" reason := by
  cases h with
  | source h => simp only [verdict, Editor.read, h, Except.mapError, bind, Except.bind]; rfl
  | target ha h => simp only [verdict, Editor.read, ha, h, Except.mapError, bind, Except.bind]; rfl
  | request ha hb h =>
      simp only [verdict, Editor.read, ha, hb, h, Except.mapError, bind, Except.bind]; rfl

theorem toJson_of_reads (h : Reads source target request a b r) :
    (verdict source target request).toJson =
      told (a.checkLink b r.sourceHandle r.targetHandle) := by
  simp only [verdict, Editor.read, h.source, h.target, h.request, Except.mapError, bind,
    Except.bind]
  cases a.checkLink b r.sourceHandle r.targetHandle <;> rfl

end Texts

section Records

theorem undescribed_iff (a b : NodeRecord) :
    (∃ reason, Undescribed a b reason) ↔ ¬ ∃ m n, a.lower = .ok m ∧ b.lower = .ok n := by
  constructor
  · rintro ⟨_, hu⟩ ⟨m, n, hm, hn⟩
    cases hu with
    | source h => cases h.symm.trans hm
    | target _ h => cases h.symm.trans hn
  · intro hnone
    cases hm : a.lower with
    | error fault => exact ⟨_, .source hm⟩
    | ok m =>
        cases hn : b.lower with
        | error fault => exact ⟨_, .target hm hn⟩
        | ok n => exact absurd ⟨m, n, hm, hn⟩ hnone

theorem checkLink_of_undescribed (h : Undescribed a b reason)
    (sourceHandle targetHandle : Option String) :
    ∃ fault, a.checkLink b sourceHandle targetHandle = .error (.malformed fault) ∧
      fault.text = reason := by
  cases h with
  | @source fault h => exact ⟨fault, by rw [NodeRecord.checkLink, h]; rfl, rfl⟩
  | @target m fault hm h => exact ⟨fault, by rw [NodeRecord.checkLink, hm, h]; rfl, rfl⟩

theorem toJson_of_undescribed (hr : Reads source target request a b r)
    (h : Undescribed a b reason) :
    (verdict source target request).toJson = rejection "malformed" reason := by
  obtain ⟨fault, hcheck, rfl⟩ := checkLink_of_undescribed h r.sourceHandle r.targetHandle
  rw [toJson_of_reads hr, hcheck]
  rfl

theorem toJson_of_draws (h : Draws source target request link) :
    (verdict source target request).toJson = told (Link.check link) := by
  obtain ⟨hr, hm, hn⟩ := h
  rw [toJson_of_reads hr, checkLink_eq hm hn]

theorem draws_or_undescribed (hr : Reads source target request a b r) :
    (∃ link, Draws source target request link) ∨ ∃ reason, Undescribed a b reason := by
  by_cases h : ∃ m n, a.lower = .ok m ∧ b.lower = .ok n
  · obtain ⟨m, n, hm, hn⟩ := h
    exact .inl ⟨_, .ends hr hm hn⟩
  · exact .inr ((undescribed_iff a b).mpr h)

end Records

section Answers

theorem told_mismatch {refusal : Refusal} {concern : Concern}
    (h : Link.check link = .error refusal) (hc : refusal.concern = concern) :
    told (Link.check link) = rejection concern.name refusal.reason := by
  rw [h, ← hc]
  rfl

theorem due_told (h : Draws source target request link) :
    Due source target request (told (Link.check link)) := by
  cases hcheck : Link.check link with
  | ok => exact .accepted h hcheck
  | error refusal =>
      rw [← hcheck]
      rcases (check_decides link).2.2.2 refusal hcheck with hc | hc
      · exact told_mismatch hcheck hc ▸ .kindMismatch h hcheck hc
      · exact told_mismatch hcheck hc ▸ .typeMismatch h hcheck hc

theorem due_verdict (source target request : String) :
    Due source target request (verdict source target request).toJson := by
  by_cases hr : ∃ a b r, Reads source target request a b r
  · obtain ⟨a, b, r, hr⟩ := hr
    rcases draws_or_undescribed hr with ⟨link, hl⟩ | ⟨reason, hu⟩
    · exact toJson_of_draws hl ▸ due_told hl
    · exact toJson_of_undescribed hr hu ▸ .malformed hr hu
  · obtain ⟨reason, hu⟩ := unread_iff.mpr hr
    exact toJson_of_unread hu ▸ .parse hu

theorem toJson_eq_iff :
    (verdict source target request).toJson = answer ↔ Due source target request answer := by
  constructor
  · rintro rfl
    exact due_verdict source target request
  · intro h
    cases h with
    | parse h => exact toJson_of_unread h
    | malformed hr h => exact toJson_of_undescribed hr h
    | kindMismatch hl h hc => exact (toJson_of_draws hl).trans (told_mismatch h hc)
    | typeMismatch hl h hc => exact (toJson_of_draws hl).trans (told_mismatch h hc)
    | accepted hl h => rw [toJson_of_draws hl, h]; rfl

theorem rejection_inj {kind' reason' : String} :
    rejection kind reason = rejection kind' reason' ↔ kind = kind' ∧ reason = reason' := by
  simp [rejection]

theorem acceptance_ne_rejection : acceptance ≠ rejection kind reason := by
  simp [acceptance, rejection]

theorem due_acceptance_iff :
    Due source target request acceptance ↔
      ∃ link, Draws source target request link ∧ Link.check link = .ok () := by
  constructor
  · intro h
    generalize he : acceptance = answer at h
    cases h with
    | accepted hl h => exact ⟨_, hl, h⟩
    | parse | malformed | kindMismatch | typeMismatch => exact absurd he acceptance_ne_rejection
  · rintro ⟨link, hl, h⟩
    exact .accepted hl h

/-- The kind of a rejection tells the layer that it comes from. -/
theorem due_rejection_iff :
    Due source target request (rejection kind reason) ↔
      kind = "parse" ∧ Unread source target request reason ∨
        kind = "malformed" ∧ (∃ a b r, Reads source target request a b r ∧
          Undescribed a b reason) ∨
        kind = "kindMismatch" ∧ Refuses source target request .kindMismatch reason ∨
        kind = "typeMismatch" ∧ Refuses source target request .typeMismatch reason := by
  constructor
  · intro h
    generalize he : rejection kind reason = answer at h
    cases h with
    | accepted => exact absurd he.symm acceptance_ne_rejection
    | parse h =>
        obtain ⟨rfl, rfl⟩ := rejection_inj.mp he
        exact .inl ⟨rfl, h⟩
    | malformed hr h =>
        obtain ⟨rfl, rfl⟩ := rejection_inj.mp he
        exact .inr (.inl ⟨rfl, _, _, _, hr, h⟩)
    | kindMismatch hl h hc =>
        obtain ⟨rfl, rfl⟩ := rejection_inj.mp he
        exact .inr (.inr (.inl ⟨rfl, _, _, hl, h, hc, rfl⟩))
    | typeMismatch hl h hc =>
        obtain ⟨rfl, rfl⟩ := rejection_inj.mp he
        exact .inr (.inr (.inr ⟨rfl, _, _, hl, h, hc, rfl⟩))
  · rintro (⟨rfl, h⟩ | ⟨rfl, _, _, _, hr, h⟩ | ⟨rfl, _, _, hl, h, hc, rfl⟩ |
      ⟨rfl, _, _, hl, h, hc, rfl⟩)
    · exact .parse h
    · exact .malformed hr h
    · exact .kindMismatch hl h hc
    · exact .typeMismatch hl h hc

theorem verdict_layered (source target request : String) :
    Layered source target request (verdict source target request).toJson where
  parse reason := by simp [toJson_eq_iff, due_rejection_iff]
  unread := unread_iff
  malformed reason := by simp [toJson_eq_iff, due_rejection_iff]
  undescribed := undescribed_iff
  accepted := toJson_eq_iff.trans due_acceptance_iff
  kindMismatch reason := by simp [toJson_eq_iff, due_rejection_iff]
  typeMismatch reason := by simp [toJson_eq_iff, due_rejection_iff]
  total := by
    generalize he : (verdict source target request).toJson = answer
    cases toJson_eq_iff.mp he with
    | accepted => exact .inl rfl
    | parse | malformed | kindMismatch | typeMismatch =>
        exact .inr ⟨_, by simp, _, rfl⟩

end Answers

section Codes

def codes : List (String × String) :=
  [("kindMismatch", "C001"), ("typeMismatch", "C002"), ("malformed", "C003")]

theorem checkLink_coded {refusal : Refusal} {sourceHandle targetHandle : Option String}
    (h : a.checkLink b sourceHandle targetHandle = .error refusal) :
    (refusal.concern.name, refusal.code) ∈ codes := by
  have hconcern : refusal.concern = .malformed ∨ refusal.concern = .kindMismatch ∨
      refusal.concern = .typeMismatch := by
    by_cases hl : ∃ m n, a.lower = .ok m ∧ b.lower = .ok n
    · obtain ⟨m, n, hm, hn⟩ := hl
      rw [checkLink_eq hm hn] at h
      exact .inr ((check_decides _).2.2.2 refusal h)
    · obtain ⟨reason, hu⟩ := (undescribed_iff a b).mpr hl
      obtain ⟨fault, hcheck, _⟩ := checkLink_of_undescribed hu sourceHandle targetHandle
      cases h.symm.trans hcheck
      exact .inl rfl
  rcases hconcern with hc | hc | hc <;> simp [Refusal.code, hc, codes, Concern.name]

end Codes

theorem verdict_of_handles {other : String} {r' : EdgeRequest}
    (hr : EdgeRequest.reader.run request = .ok r) (hr' : EdgeRequest.reader.run other = .ok r')
    (hs : r'.sourceHandle = r.sourceHandle) (ht : r'.targetHandle = r.targetHandle) :
    verdict source target other = verdict source target request := by
  simp only [verdict, Editor.read, hr, hr', hs, ht, Except.mapError, bind, Except.bind]

/-- Whatever the three texts are, the editor is told of the first layer in which something is wrong:
the texts, the components, the rules. Of the request only the handles count, and what is told of an
edge between two records is what the check of the edge says. -/
theorem editor_answers_in_layers (source target request : String) :
    Layered source target request (verdict source target request).toJson ∧
      (∀ other r r', EdgeRequest.reader.run request = .ok r →
        EdgeRequest.reader.run other = .ok r' → r'.sourceHandle = r.sourceHandle →
        r'.targetHandle = r.targetHandle →
        verdict source target other = verdict source target request) ∧
      ∀ a b r, Reads source target request a b r →
        (verdict source target request).toJson =
            told (a.checkLink b r.sourceHandle r.targetHandle) ∧
          ∀ refusal, a.checkLink b r.sourceHandle r.targetHandle = .error refusal →
            (refusal.concern.name, refusal.code) ∈ codes :=
  ⟨verdict_layered source target request, fun _ _ _ hr hr' hs ht => verdict_of_handles hr hr' hs ht,
    fun _ _ _ h => ⟨toJson_of_reads h, fun _ hrefusal => checkLink_coded hrefusal⟩⟩

end LineTopology.Proofs.EditorLayers
