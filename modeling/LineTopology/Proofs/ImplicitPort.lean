import LineTopology.Proofs.HandleMap
import LineTopology.Proofs.LinkVerdict

namespace LineTopology.Proofs.ImplicitPort

open Link PartnerTables LinkFaults LinkVerdict HandleMap

def opposite : Side → Side
  | .source => .target
  | .target => .source

def station (link : Link) : Side → Station
  | .source => link.source
  | .target => link.target

def handle? (link : Link) : Side → Option String
  | .source => link.sourceHandle
  | .target => link.targetHandle

def named (link : Link) (port : String) : Side → Link
  | .source => { link with sourceHandle := some port }
  | .target => { link with targetHandle := some port }

def between (source target : Node) (sourceHandle targetHandle : Option String) : Link :=
  ⟨source.station, target.station, sourceHandle, targetHandle⟩

def OnlyPort (ports : Ports) (port : String) : Prop := ports.size = 1 ∧ ports.contains port = true

def SameVerdict (link other : Link) : Prop :=
  (check link = .ok () ↔ check other = .ok ()) ∧
    ∀ concern, Raises (check link) concern ↔ Raises (check other) concern

variable {link other : Link} {side : Side} {port element : String}

section Ends

theorem handle?_named : handle? (named link port side) side = some port := by
  cases side <;> rfl

theorem station_named (s : Side) : station (named link port side) s = station link s := by
  cases side <;> cases s <;> rfl

theorem handle?_named_opposite :
    handle? (named link port side) (opposite side) = handle? link (opposite side) := by
  cases side <;> rfl

theorem feeds_named : Feeds (named link port side) ↔ Feeds link := by
  cases side <;> exact Iff.rfl

theorem leftOpen_named : LeftOpen (named link port side) ↔ LeftOpen link := by
  cases side <;> exact Iff.rfl

theorem meet_iff (side : Side) :
    Meet link ↔
      Unmapped (station link side) side (handle? link side) ∨
        Unmapped (station link (opposite side)) (opposite side) (handle? link (opposite side)) ∨
        (station link side).carried? side (handle? link side) =
          (station link (opposite side)).carried? (opposite side)
            (handle? link (opposite side)) := by
  cases side with
  | source => exact Iff.rfl
  | target =>
      rw [Meet, or_left_comm, eq_comm]
      exact Iff.rfl

theorem opposite_ne_transformer (hf : Feeds link) (hk : (station link side).kind = .transformer) :
    (station link (opposite side)).kind ≠ .transformer := by
  intro ho
  have hkinds : link.source.kind = link.target.kind := by
    cases side with
    | source => exact hk.trans ho.symm
    | target => exact ho.trans hk.symm
  exact not_feeds (not_mayFeed_same hkinds) hf

theorem not_leftOpen_of_transformer (hk : (station link side).kind = .transformer) :
    ¬ LeftOpen link := by
  rintro ⟨hs, _, ht⟩
  cases side with
  | source => cases hs.symm.trans hk
  | target => cases ht.symm.trans hk

theorem compatible_mapped_iff (hf : Feeds link) (hk : (station link side).kind = .transformer)
    (he : (station link side).carried? side (handle? link side) = some element) :
    Compatible link ↔ (station link (opposite side)).element? = some element := by
  have hmapped : ¬ Unmapped (station link side) side (handle? link side) :=
    not_unmapped_of_isSome (by rw [he]; rfl)
  have ho := opposite_ne_transformer hf hk
  rw [Compatible, or_iff_left (not_leftOpen_of_transformer hk), meet_iff side,
    or_iff_right hmapped, or_iff_right (not_unmapped ho), carried_of_ne_transformer ho, he]
  exact eq_comm

end Ends

section Verdicts

theorem sameVerdict_of_compatible (hf : Feeds link ↔ Feeds other)
    (hc : Compatible link ↔ Compatible other) : SameVerdict link other := by
  obtain ⟨ha, hr⟩ := check_exact link
  obtain ⟨hao, hro⟩ := check_exact other
  constructor
  · rw [ha, hao, hf, hc]
  · intro concern
    rw [hr, hro]
    cases concern with
    | kindMismatch => exact not_congr hf
    | typeMismatch => exact and_congr hf (not_congr hc)
    | parse | malformed | missingAssignment | unknownReference | danglingEdge | duplicateNode
    | portOutOfRange | invalidConnection => exact Iff.rfl

/-- A component with one element does not look at its handles. -/
theorem sameVerdict_named (hk : (station link side).kind ≠ .transformer) :
    SameVerdict (named link port side) link := by
  refine sameVerdict_of_compatible feeds_named ?_
  have hmeet : Meet (named link port side) ↔ Meet link := by
    rw [meet_iff side, meet_iff side, station_named, station_named, handle?_named_opposite,
      carried_of_ne_transformer hk, carried_of_ne_transformer hk]
    simp only [not_unmapped hk, false_or]
  exact or_congr hmeet leftOpen_named

variable {t : Transformer}

theorem not_raises_absent (ht : station link side = .transformer t)
    (hn : handle? link side = none) :
    ¬ Raises (check link) .typeMismatch := by
  rw [(check_exact link).raises]
  rintro ⟨_, hc⟩
  refine hc (.inl ((meet_iff side).mpr (.inl ⟨t, ht, ?_⟩)))
  rw [hn]
  rfl

theorem raises_named_iff (ht : station link side = .transformer t)
    (he : t.element? side (some port) = some element) :
    Raises (check (named link port side)) .typeMismatch ↔
      Feeds link ∧ (station link (opposite side)).element? ≠ some element := by
  have hk : (station (named link port side) side).kind = .transformer := by
    rw [station_named, ht]
    rfl
  have hcarried : (station (named link port side) side).carried? side
      (handle? (named link port side) side) = some element := by
    rw [station_named, handle?_named, ht]
    exact he
  rw [(check_exact _).raises]
  refine (and_congr_left' feeds_named).trans (and_congr_right fun hf => not_congr ?_)
  rw [compatible_mapped_iff (feeds_named.mpr hf) hk hcarried, station_named]

end Verdicts

section Lowered

variable {first second : NodeRecord} {source target : Node}
  {sourceHandle targetHandle : Option String}

theorem station_covered (hs : first.lower = .ok source) (ht : second.lower = .ok target)
    {t : Transformer} (h : station (between source target sourceHandle targetHandle) side =
      .transformer t) : Covered t := by
  cases side with
  | source => exact lower_covered hs h
  | target => exact lower_covered ht h

/-- To name the only port of a side, where no handle is written, is to name a port. It never
matters to the kinds, and it matters to the elements at a transformer alone: nothing is mapped to an
absent handle, so that only the named port asks for its element at the other end. -/
theorem named_port_verdict (hs : first.lower = .ok source) (ht : second.lower = .ok target)
    (sourceHandle targetHandle : Option String) (side : Side) (port : String) (link : Link)
    (hl : link = between source target sourceHandle targetHandle)
    (hn : handle? link side = none) (hp : OnlyPort ((station link side).layout.side side) port) :
    ((station link side).layout.hasHandle side none = true ∧
        (station link side).layout.hasHandle side (some port) = true) ∧
      (Raises (check (named link port side)) .kindMismatch ↔
        Raises (check link) .kindMismatch) ∧
      ((station link side).kind ≠ .transformer → SameVerdict (named link port side) link) ∧
      ((station link side).kind = .transformer →
        ¬ Raises (check link) .typeMismatch ∧
          ∃ element, (station link side).carried? side (some port) = some element ∧
            (Raises (check (named link port side)) .typeMismatch ↔
              link.source.endpoint.mayFeed link.target.kind = true ∧
                (station link (opposite side)).element? ≠ some element)) := by
  refine ⟨⟨?_, hp.2⟩, ?_, sameVerdict_named, fun hk => ?_⟩
  · simp only [Layout.hasHandle, hp.1, beq_self_eq_true]
  · rw [(check_exact _).raises, (check_exact _).raises]
    exact not_congr feeds_named
  · obtain ⟨t, htransformer⟩ := exists_transformer hk
    have hcovered : Covered t := station_covered hs ht (hl ▸ htransformer)
    have hcontains : ((Station.transformer t).layout.side side).contains port = true := by
      rw [← htransformer]
      exact hp.2
    obtain ⟨element, he⟩ :=
      Option.isSome_iff_exists.mp (element_isSome_of_contains hcovered hcontains)
    refine ⟨not_raises_absent htransformer hn, element, ?_, raises_named_iff htransformer he⟩
    rw [htransformer]
    exact he

end Lowered

def shelfRecord : NodeRecord := ⟨some "shelf", some "queue", .object [("elemento", .string "nut")]⟩

def shelf : Node := ⟨"shelf", .queue (some "nut") 1 1⟩

def pressRecord : NodeRecord :=
  ⟨some "press", some "transformer", .object [("handles", .object [("bolt", .string "bolt")])]⟩

def press : Node := ⟨"press", .transformer ⟨[("bolt", "bolt")], ["bolt"], ["bolt"]⟩⟩

def shelfToPress : Link := between shelf press none none

theorem shelf_lowered : shelfRecord.lower = .ok shelf := rfl

theorem press_lowered : pressRecord.lower = .ok press := rfl

theorem press_port : OnlyPort ((station shelfToPress .target).layout.side .target) "bolt" :=
  ⟨rfl, rfl⟩

theorem shelf_to_press_verdict :
    shelfRecord.lower = .ok shelf ∧ pressRecord.lower = .ok press ∧
      handle? shelfToPress .target = none ∧
      OnlyPort ((station shelfToPress .target).layout.side .target) "bolt" ∧
      ¬ Raises (check shelfToPress) .typeMismatch ∧
      Raises (check (named shelfToPress "bolt" .target)) .typeMismatch := by
  obtain ⟨_, _, _, htransformer⟩ :=
    named_port_verdict shelf_lowered press_lowered none none .target "bolt" shelfToPress rfl rfl
      press_port
  obtain ⟨habsent, element, he, hnamed⟩ := htransformer rfl
  obtain rfl : "bolt" = element := Option.some_inj.mp he
  refine ⟨shelf_lowered, press_lowered, rfl, press_port, habsent, hnamed.mpr ⟨rfl, ?_⟩⟩
  exact fun h => absurd (Option.some_inj.mp h) (by decide)

/-- A transformer with one port takes anything where no handle is written, and bolts alone where the
port is named. -/
theorem absent_handle_is_no_port :
    shelfRecord.lower = .ok shelf ∧ pressRecord.lower = .ok press ∧
      handle? shelfToPress .target = none ∧
      OnlyPort ((station shelfToPress .target).layout.side .target) "bolt" ∧
      check shelfToPress = .ok () ∧
      check (named shelfToPress "bolt" .target) =
        .error (.element .queueSends (some "nut") (some "bolt")) ∧
      ¬ SameVerdict (named shelfToPress "bolt" .target) shelfToPress := by
  refine ⟨shelf_lowered, press_lowered, rfl, press_port, rfl, rfl, fun h => ?_⟩
  cases h.1.mpr rfl

end LineTopology.Proofs.ImplicitPort
