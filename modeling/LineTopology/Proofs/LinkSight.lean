import LineTopology.Proofs.LinkFaults

namespace LineTopology.Proofs.LinkSight

open Link LinkFaults

/-- Two ends of links that show the rules the same: the endpoint, the element that passes, and, at a
transformer, the handle. -/
structure LooksAlike (side : Side) (a b : Station) (h k : Option String) : Prop where
  endpoint : a.endpoint = b.endpoint
  carried : a.carried? side h = b.carried? side k
  handle : a.kind = .transformer → h = k

/-- A change at one end of a link that nothing shows. -/
inductive Hidden (side : Side) : Node → Option String → Node → Option String → Prop
  | id {station : Station} {handle : Option String} (a b : String) :
      Hidden side ⟨a, station⟩ handle ⟨b, station⟩ handle
  | queuePorts {id : String} {element handle : Option String} (m n m' n' : Nat) :
      Hidden side ⟨id, .queue element m n⟩ handle ⟨id, .queue element m' n'⟩ handle
  | selectorPorts {id : String} {element handle : Option String} (m n m' n' : Nat) :
      Hidden side ⟨id, .selector element m n⟩ handle ⟨id, .selector element m' n'⟩ handle
  | outputPorts {id : String} {element handle : Option String} (m m' : Nat) :
      Hidden side ⟨id, .output element m⟩ handle ⟨id, .output element m'⟩ handle
  | handle {node : Node} (h k : Option String) (hk : node.kind ≠ .transformer) :
      Hidden side node h node k
  | entries {id : String} {t u : Transformer} {handle : Option String}
      (h : ∀ name, handle = some name → (name ∈ t.ports side ↔ name ∈ u.ports side) ∧
        Dictionary.find? name t.handles = Dictionary.find? name u.handles) :
      Hidden side ⟨id, .transformer t⟩ handle ⟨id, .transformer u⟩ handle

section Ends

variable {side : Side} {a b : Station} {h k : Option String}

theorem LooksAlike.kind (hab : LooksAlike side a b h k) : a.kind = b.kind :=
  congrArg Endpoint.kind hab.endpoint

theorem LooksAlike.element (hab : LooksAlike side a b h k) : a.element? = b.element? := by
  by_cases ha : a.kind = .transformer
  · have hb : b.kind = .transformer := hab.kind.symm.trans ha
    obtain ⟨t, rfl⟩ := exists_transformer ha
    obtain ⟨u, rfl⟩ := exists_transformer hb
    rfl
  · have hb : b.kind ≠ .transformer := fun hb => ha (hab.kind.trans hb)
    rw [← carried_of_ne_transformer ha, hab.carried, carried_of_ne_transformer hb]

theorem LooksAlike.agrees (hab : LooksAlike side a b h k) (expected : Option String) :
    a.agrees side h expected = b.agrees side k expected := by
  rw [Bool.eq_iff_iff, agrees_iff, agrees_iff, unmapped_iff, unmapped_iff, hab.kind, hab.carried]

theorem looksAlike_of_hidden {node other : Node} (hn : Hidden side node h other k) :
    LooksAlike side node.station other.station h k := by
  cases hn with
  | id | queuePorts | selectorPorts | outputPorts => exact ⟨rfl, rfl, fun _ => rfl⟩
  | handle h k hk =>
      refine ⟨rfl, ?_, fun ht => absurd ht hk⟩
      rw [carried_of_ne_transformer hk, carried_of_ne_transformer hk]
  | @entries id t u handle hentry =>
      refine ⟨rfl, ?_, fun _ => rfl⟩
      change t.element? side h = u.element? side h
      cases h with
      | none => rfl
      | some name =>
          obtain ⟨hport, hmapped⟩ := hentry name rfl
          simp [Transformer.element?, hport, hmapped]

end Ends

section Rules

variable {link other : Link}
  (hs : LooksAlike .source link.source other.source link.sourceHandle other.sourceHandle)
  (ht : LooksAlike .target link.target other.target link.targetHandle other.targetHandle)

include hs ht in
theorem outgoing_congr (owner : Kind) : outgoing owner link = outgoing owner other := by
  simp only [outgoing, hs.kind, hs.endpoint, ht.kind]

include hs ht in
theorem incoming_congr (owner : Kind) : incoming owner link = incoming owner other := by
  simp only [incoming, hs.endpoint, ht.kind]

include ht in
theorem sends_congr (promise : Promise) (expected : Option String) :
    sends promise expected link = sends promise expected other := by
  simp only [sends, targetElement?, ht.agrees, ht.carried]

include hs in
theorem receives_congr (promise : Promise) (expected : Option String) :
    receives promise expected link = receives promise expected other := by
  simp only [receives, sourceElement?, hs.agrees, hs.carried]

include hs ht

theorem queueRule_congr : queueRule link = queueRule other := by
  simp only [queueRule, outgoing_congr hs ht, incoming_congr hs ht, sends_congr ht,
    receives_congr hs, hs.kind, ht.kind, hs.element, ht.element]

theorem generatorRule_congr : generatorRule link = generatorRule other := by
  simp only [generatorRule, outgoing_congr hs ht, sends_congr ht, hs.kind, ht.kind, hs.element]

theorem transporterRule_congr : transporterRule link = transporterRule other := by
  simp only [transporterRule, outgoing_congr hs ht, incoming_congr hs ht, sends_congr ht,
    receives_congr hs, hs.kind, ht.kind, hs.element, ht.element]

theorem selectorRule_congr : selectorRule link = selectorRule other := by
  simp only [selectorRule, outgoing_congr hs ht, incoming_congr hs ht]

theorem outputRule_congr : outputRule link = outputRule other := by
  simp only [outputRule, incoming_congr hs ht, receives_congr hs, hs.kind, ht.kind, ht.element]

theorem transformerRule_congr : transformerRule link = transformerRule other := by
  have hsource : link.sourceElement? = other.sourceElement? := hs.carried
  have htarget : link.targetElement? = other.targetElement? := ht.carried
  have hexpects (h : other.target.kind = .transformer) : link.targetHandle = other.targetHandle :=
    ht.handle (ht.kind.trans h)
  have hproduces (h : other.source.kind = .transformer) : link.sourceHandle = other.sourceHandle :=
    hs.handle (hs.kind.trans h)
  simp only [transformerRule, outgoing_congr hs ht, incoming_congr hs ht, sends_congr ht,
    receives_congr hs, hs.kind, ht.kind, hsource, htarget]
  by_cases hks : other.source.kind = .transformer <;>
    by_cases hkt : other.target.kind = .transformer <;>
    simp [hks, hkt, hexpects, hproduces]

theorem rule_congr {rule : Rule} (hr : rule ∈ rules) : rule link = rule other := by
  simp only [rules, List.mem_cons, List.not_mem_nil, or_false] at hr
  rcases hr with rfl | rfl | rfl | rfl | rfl | rfl
  · exact queueRule_congr hs ht
  · exact generatorRule_congr hs ht
  · exact transporterRule_congr hs ht
  · exact selectorRule_congr hs ht
  · exact outputRule_congr hs ht
  · exact transformerRule_congr hs ht

omit hs ht in
theorem firstRefusal_congr {order : List Rule} (h : ∀ rule ∈ order, rule link = rule other) :
    firstRefusal order link = firstRefusal order other := by
  induction order with
  | nil => rfl
  | cons rule order ih =>
      rw [List.forall_mem_cons] at h
      have hcons (l : Link) :
          firstRefusal (rule :: order) l = rule l >>= fun _ => firstRefusal order l := rfl
      rw [hcons, hcons, h.1, ih h.2]

theorem check_congr : check link = check other :=
  firstRefusal_congr fun _ hr => rule_congr hs ht hr

end Rules

/-- The verdict on a link, and the reason it gives, come from what its two ends show, whatever the
ids of the components, the counts of their ports, the handles of components with one element and the
other entries of a transformer are. -/
theorem verdict_sees_what_shows (a a' b b' : Node) (h h' k k' : Option String) :
    (LooksAlike .source a.station a'.station h h' → LooksAlike .target b.station b'.station k k' →
        check ⟨a.station, b.station, h, k⟩ = check ⟨a'.station, b'.station, h', k'⟩) ∧
      (Hidden .source a h a' h' → Hidden .target b k b' k' →
        check ⟨a.station, b.station, h, k⟩ = check ⟨a'.station, b'.station, h', k'⟩) :=
  ⟨fun hs ht => check_congr hs ht,
    fun hs ht => check_congr (looksAlike_of_hidden hs) (looksAlike_of_hidden ht)⟩

def heap : Node := ⟨"heap", .queue (some "nut") 1 1⟩

def pile : Node := ⟨"pile", .queue (some "nut") 3 0⟩

def press : Node := ⟨"press", .transformer ⟨[("bolt", "bolt")], ["bolt"], []⟩⟩

def mill : Node :=
  ⟨"mill", .transformer ⟨[("bolt", "bolt"), ("oil", "oil")], ["oil", "bolt"], ["oil"]⟩⟩

theorem bolt_refused_alike :
    LooksAlike .source heap.station pile.station none (some "out-7") ∧
      LooksAlike .target press.station mill.station (some "bolt") (some "bolt") ∧
      check ⟨heap.station, press.station, none, some "bolt"⟩ =
        .error (.element .queueSends (some "nut") (some "bolt")) ∧
      check ⟨pile.station, mill.station, some "out-7", some "bolt"⟩ =
        .error (.element .queueSends (some "nut") (some "bolt")) := by
  have hs : LooksAlike .source heap.station pile.station none (some "out-7") := ⟨rfl, rfl, nofun⟩
  have ht : LooksAlike .target press.station mill.station (some "bolt") (some "bolt") :=
    ⟨rfl, rfl, fun _ => rfl⟩
  have halike := (verdict_sees_what_shows heap pile press mill none (some "out-7") (some "bolt")
    (some "bolt")).1 hs ht
  exact ⟨hs, ht, rfl, halike.symm⟩

end LineTopology.Proofs.LinkSight
