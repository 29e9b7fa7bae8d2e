import LineTopology.CommandLine.Answer
import LineTopology.Editor
import LineTopology.Proofs.CheckArguments
import LineTopology.Proofs.Documents
import LineTopology.Proofs.PolicyLaws
import LineTopology.Proofs.Printing

namespace LineTopology.Proofs.Surfaces

open CommandLine CheckArguments

def Reads : Option String → Policy → Prop
  | none, policy => policy = .standard
  | some text, policy => Policy.reader.run text = .ok policy

def Readable (document : String) (options : Option String) : Prop :=
  (∃ topology, Topology.reader.run document = .ok topology) ∧ ∃ policy, Reads options policy

def checked (files : Files) (flags : List Flag) : Answer :=
  answer files ("check" :: spelledAll flags)

def added (flags : List Flag) (policy : Policy) : Policy :=
  { exemptKinds := Policy.ordered (policy.exemptKinds ++ flags.filterMap Flag.kind?)
    checkPorts := policy.checkPorts || flags.contains .checkPorts
    recheckConnections := policy.recheckConnections || flags.contains .recheckConnections }

structure Holding (files : Files) (flags : List Flag) (document : String)
    (options : Option String) : Prop where
  document : ∀ path, .path path ∈ flags → files path = .ok document
  named : ∀ attached path, .options attached path ∈ flags →
    ∃ text, options = some text ∧ files path = .ok text
  absent : (∀ attached path, .options attached path ∉ flags) → options = none

/-- The answer has the verdict of the report and, where it is asked for, its text. -/
structure Delivers (flags : List Flag) (answer : Answer) (readable : Prop) (report : Report) :
    Prop where
  accepted : answer.code = 0 ↔ report.isValid = true
  refused : answer.code = 1 ↔ readable ∧ report.isValid = false
  printed : .json ∈ flags → answer.code ≠ 2 →
    ∃ line, answer.out = [line] ∧ Grammar.Holds (Printing.formOf report.toJson) line

section Editor

variable {document text : String} {options : Option String} {policy : Policy} {topology : Topology}

theorem report_of_reads (hb : Text.isBlank text = false)
    (h : Policy.reader.run text = .ok policy) :
    Editor.report document text = Editor.reportUnder policy document := by
  simp [Editor.report, hb, h]

theorem reportUnder_of_reads (h : Topology.reader.run document = .ok topology) :
    Editor.reportUnder policy document = topology.report policy := by
  simp [Editor.reportUnder, h]

theorem report_of_options (hb : ∀ text ∈ options, Text.isBlank text = false)
    (h : Reads options policy) :
    Editor.report document (options.getD "") = Editor.reportUnder policy document := by
  cases options with
  | none =>
      cases h
      rfl
  | some text => exact report_of_reads (hb text rfl) h

theorem reportUnder_unreadable
    (h : ¬∃ topology, Topology.reader.run document = .ok topology) :
    (Editor.reportUnder policy document).isValid = false := by
  rw [Editor.reportUnder]
  split
  next topology ht => exact absurd ⟨topology, ht⟩ h
  next => rfl

theorem Reads.unique {other : Policy} (h : Reads options policy) (ho : Reads options other) :
    policy = other := by
  cases options with
  | none => rw [h, ho]
  | some text => exact Except.ok.inj (Eq.trans (Eq.symm h) ho)

theorem report_unreadable (hb : ∀ text ∈ options, Text.isBlank text = false)
    (h : ¬Readable document options) :
    (Editor.report document (options.getD "")).isValid = false := by
  by_cases hp : ∃ policy, Reads options policy
  · obtain ⟨policy, hpolicy⟩ := hp
    rw [report_of_options hb hpolicy]
    exact reportUnder_unreadable fun ht => h ⟨ht, policy, hpolicy⟩
  · cases options with
    | none => exact absurd ⟨_, rfl⟩ hp
    | some text =>
        rw [Option.getD_some, Editor.report, hb text rfl]
        simp only [Bool.false_eq_true, if_false]
        split
        next policy hpolicy => exact absurd ⟨policy, hpolicy⟩ hp
        next => rfl

end Editor

section Reports

open Trees

theorem member?_whole (key : String) (o : Option String) :
    haveWhole (Json.member? key o) = true := by
  cases o <;> rfl

theorem finding_whole (finding : Finding) : isWhole finding.toJson = true := by
  have hmissing : haveWhole (finding.missing?.toList.map fun names =>
      ("missing", .array (names.map Json.string))) = true := by
    refine haveWhole_iff.mpr fun m hm => ?_
    obtain ⟨names, _, rfl⟩ := List.mem_map.mp hm
    refine areWhole_iff.mpr fun x hx => ?_
    obtain ⟨name, _, rfl⟩ := List.mem_map.mp hx
    rfl
  rw [Finding.toJson, isWhole, haveWhole_iff]
  simp only [List.forall_mem_append, ← haveWhole_iff, member?_whole, hmissing, and_true]
  exact ⟨rfl, rfl⟩

theorem report_whole (report : Report) : isWhole report.toJson = true := by
  have hfindings : areWhole (report.findings.map Finding.toJson) = true := by
    refine areWhole_iff.mpr fun x hx => ?_
    obtain ⟨finding, _, rfl⟩ := List.mem_map.mp hx
    exact finding_whole finding
  simp [Report.toJson, isWhole, haveWhole, hfindings]

end Reports

section Answers

variable {files : Files} {flags : List Flag} {document : String} {options : Option String}
  {request : CheckRequest} {policy : Policy} {topology : Topology}

theorem policy_of_describes (h : Describes flags request) (policy : Policy) :
    request.policy policy = added flags policy := by
  have hports : request.checkPorts = flags.contains .checkPorts := by
    rw [Bool.eq_iff_iff, h.checkPorts, List.contains_iff_mem]
  have hrecheck : request.recheckConnections = flags.contains .recheckConnections := by
    rw [Bool.eq_iff_iff, h.recheckConnections, List.contains_iff_mem]
  rw [CheckRequest.policy, added, h.exempt, hports, hrecheck]

theorem options_held (h : Holding files flags document options) (hr : Describes flags request) :
    Option.Rel (fun path text => files path = .ok text) request.options options := by
  cases hoptions : request.options with
  | none =>
      rw [h.absent fun attached path hmem => ?_]
      · exact .none
      · rw [(hr.options path).mpr ⟨attached, hmem⟩] at hoptions
        cases hoptions
  | some path =>
      obtain ⟨attached, hmem⟩ := (hr.options path).mp hoptions
      obtain ⟨text, rfl, htext⟩ := h.named attached path hmem
      exact .some htext

theorem readTopology_eq {path : String} (h : files path = .ok document) :
    readTopology files path = (Topology.reader.run document).mapError .badTopology := by
  rw [readTopology, readFile, h]
  rfl

theorem readPolicy_ok_iff {path : Option String}
    (h : Option.Rel (fun path text => files path = .ok text) path options) :
    readPolicy files path = .ok policy ↔ Reads options policy := by
  cases h with
  | none => exact ⟨fun h => by cases h; rfl, fun h => by rw [h]; rfl⟩
  | some htext =>
      rw [readPolicy, readFile, htext]
      simp only [Except.mapError, bind, Except.bind, Reads]
      split <;> simp_all

theorem answer_of_readable (h : Holding files flags document options) (hr : Describes flags request)
    (ht : Topology.reader.run document = .ok topology) (hp : Reads options policy) :
    request.answer files =
      .ok ⟨if (topology.report (added flags policy)).isValid then 0 else 1,
        request.lines topology (topology.report (added flags policy)), []⟩ := by
  have htopology : readTopology files request.path = .ok topology := by
    rw [readTopology_eq (h.document _ hr.path), ht]
    rfl
  have hpolicy := (readPolicy_ok_iff (options_held h hr)).mpr hp
  rw [CheckRequest.answer, htopology, hpolicy, ← policy_of_describes hr]
  rfl

theorem answer_of_unreadable (h : Holding files flags document options)
    (hr : Describes flags request) (hu : ¬Readable document options) :
    ∃ failure, request.answer files = .error failure := by
  rw [CheckRequest.answer]
  cases htopology : readTopology files request.path with
  | error failure => exact ⟨failure, rfl⟩
  | ok topology =>
      cases hpolicy : readPolicy files request.options with
      | error failure => exact ⟨failure, rfl⟩
      | ok policy =>
          rw [readTopology_eq (h.document _ hr.path)] at htopology
          cases hrun : Topology.reader.run document with
          | error m =>
              rw [hrun] at htopology
              cases htopology
          | ok topology =>
              exact absurd ⟨⟨topology, hrun⟩, policy,
                (readPolicy_ok_iff (options_held h hr)).mp hpolicy⟩ hu

theorem answer_of_same {others : List Flag} {other : CheckRequest} (honce : Once flags)
    (h : Describes flags request) (ho : Describes others other) (hs : ∀ f, f ∈ others ↔ f ∈ flags)
    (files : Files) : other.answer files = request.answer files := by
  have hpath : other.path = request.path := by
    have heq := honce.eq_of_name ((hs _).mp ho.path) h.path rfl rfl
    injection heq
  have hoptions : other.options = request.options := by
    refine Option.ext fun path => ?_
    rw [ho.options, h.options]
    simp only [hs]
  have hjson : other.json = request.json := by
    rw [Bool.eq_iff_iff, ho.json, h.json, hs]
  have hports : other.checkPorts = request.checkPorts := by
    rw [Bool.eq_iff_iff, ho.checkPorts, h.checkPorts, hs]
  have hrecheck : other.recheckConnections = request.recheckConnections := by
    rw [Bool.eq_iff_iff, ho.recheckConnections, h.recheckConnections, hs]
  have hpolicy : ∀ policy, other.policy policy = request.policy policy := by
    intro policy
    have hkinds : Policy.ordered (policy.exemptKinds ++ other.exempt) =
        Policy.ordered (policy.exemptKinds ++ request.exempt) := by
      refine List.filter_congr fun kind _ => ?_
      rw [Bool.eq_iff_iff, List.contains_iff_mem, List.contains_iff_mem, ho.exempt, h.exempt]
      simp only [List.mem_append, List.mem_filterMap, hs]
    rw [CheckRequest.policy, CheckRequest.policy, hkinds, hports, hrecheck]
  simp only [CheckRequest.answer, CheckRequest.lines, hpath, hoptions, hjson, hpolicy]

end Answers

section Deliveries

variable {files : Files} {flags : List Flag} {document : String} {options : Option String}
  {request : CheckRequest} {policy : Policy} {topology : Topology} {report : Report}

theorem delivers_of_report {readable : Prop} (hread : readable) (hr : Describes flags request) :
    Delivers flags ⟨if report.isValid then 0 else 1, request.lines topology report, []⟩
      readable report := by
  refine ⟨?_, ?_, fun hjson _ => ⟨report.toJson.indented, ?_, ?_⟩⟩
  · cases report.isValid <;> simp
  · cases report.isValid <;> simp [hread]
  · rw [CheckRequest.lines, hr.json.mpr hjson]
    rfl
  · exact Printing.indented_holds (report_whole report)

theorem delivers_of_failure {readable : Prop} (hread : ¬readable) (hv : report.isValid = false)
    (err : List String) : Delivers flags ⟨2, [], err⟩ readable report := by
  refine ⟨?_, ?_, fun _ h => absurd rfl h⟩
  · simp [hv]
  · simp [hread]

theorem answer_of_flags (hproper : ∀ f ∈ flags, f.Proper) (honce : Once flags)
    (hpath : ∃ path, .path path ∈ flags) (hfiles : Holding files flags document options) :
    (∀ topology policy, Topology.reader.run document = .ok topology → Reads options policy →
      ∃ r, Describes flags r ∧ checked files flags =
        ⟨if (topology.report (added flags policy)).isValid then 0 else 1,
          r.lines topology (topology.report (added flags policy)), []⟩) ∧
    (¬Readable document options →
      ∃ err, checked files flags = ⟨2, [], err⟩) := by
  obtain ⟨path, hpath⟩ := hpath
  obtain ⟨r, hrequest, hr⟩ := request_of_flags hproper honce hpath
  rw [checked, answer, hrequest]
  refine ⟨fun topology policy ht hp => ⟨r, hr, ?_⟩, fun hu => ?_⟩
  · simp only [Request.answer, answer_of_readable hfiles hr ht hp]
  · obtain ⟨failure, hfailure⟩ := answer_of_unreadable hfiles hr hu
    simp only [Request.answer, hfailure]
    exact ⟨_, rfl⟩

theorem code_eq_two_iff (hproper : ∀ f ∈ flags, f.Proper) (honce : Once flags)
    (hpath : ∃ path, .path path ∈ flags) (hfiles : Holding files flags document options) :
    (checked files flags).code = 2 ↔ ¬Readable document options := by
  obtain ⟨hreadable, hunreadable⟩ := answer_of_flags hproper honce hpath hfiles
  constructor
  · rintro hcode ⟨⟨topology, ht⟩, policy, hp⟩
    obtain ⟨r, _, hanswer⟩ := hreadable topology policy ht hp
    rw [hanswer] at hcode
    split at hcode <;> cases hcode
  · intro hu
    obtain ⟨err, hanswer⟩ := hunreadable hu
    rw [hanswer]

theorem answer_delivers (hproper : ∀ f ∈ flags, f.Proper) (honce : Once flags)
    (hpath : ∃ path, .path path ∈ flags) (hfiles : Holding files flags document options)
    (hagree : ∀ policy, Reads options policy →
      report = Editor.reportUnder (added flags policy) document)
    (hfaults : ¬Readable document options → report.isValid = false) :
    Delivers flags (checked files flags) (Readable document options)
      report := by
  obtain ⟨hreadable, hunreadable⟩ := answer_of_flags hproper honce hpath hfiles
  by_cases hu : Readable document options
  · obtain ⟨⟨topology, ht⟩, policy, hp⟩ := id hu
    obtain ⟨r, hr, hanswer⟩ := hreadable topology policy ht hp
    rw [hanswer, hagree policy hp, reportUnder_of_reads ht]
    exact delivers_of_report hu hr
  · obtain ⟨err, hanswer⟩ := hunreadable hu
    rw [hanswer]
    exact delivers_of_failure hu (hfaults hu) err

end Deliveries

section Policies

variable {flags : List Flag} {options : Option String} {policy : Policy}

theorem ordered_of_reads (h : Reads options policy) :
    Policy.ordered policy.exemptKinds = policy.exemptKinds := by
  cases options with
  | none =>
      cases h
      rfl
  | some text =>
      have hrun : Policy.reader.run text = .ok policy := h
      have hordered := WellRead.run_yields (Documents.policy_yields _ 126) hrun
      exact hordered

theorem added_eq (h : Reads options policy) (hadds : ∀ f ∈ flags, f.adds = false) :
    added flags policy = policy := by
  have hkinds : flags.filterMap Flag.kind? = [] := by
    refine List.filterMap_eq_nil_iff.mpr fun f hf => ?_
    cases f with
    | exempt => cases hadds _ hf
    | path | options | checkPorts | recheckConnections | json => rfl
  have hports : flags.contains .checkPorts = false := by
    rw [← Bool.not_eq_true, List.contains_iff_mem]
    exact fun hf => Bool.noConfusion (hadds _ hf)
  have hrecheck : flags.contains .recheckConnections = false := by
    rw [← Bool.not_eq_true, List.contains_iff_mem]
    exact fun hf => Bool.noConfusion (hadds _ hf)
  rw [added, hkinds, hports, hrecheck, List.append_nil, ordered_of_reads h, Bool.or_false,
    Bool.or_false]

theorem added_written (flags : List Flag) (policy : Policy) :
    ∃ text, Text.isBlank text = false ∧ Policy.reader.run text = .ok (added flags policy) := by
  refine ⟨(added flags policy).toJson.compact, ?_, ?_⟩
  · rw [Text.isBlank, Json.compact, String.toList_ofList, Policy.toJson, Trees.object_chars]
    rfl
  · exact Records.run_reads (Documents.policy_reads 125 (Documents.ordered_ordered _))

end Policies

/-- The command line and the editor give one verdict on the same texts. What the arguments add to
the options is as if it stood in their text; the order of the arguments and the repetition of
exemptions do not matter, and no other argument may be repeated. -/
theorem surfaces_agree (files : Files) (flags : List Flag) (document : String)
    (options : Option String) (hproper : ∀ f ∈ flags, f.Proper) (hpath : ∃ path, .path path ∈ flags)
    (hfiles : Holding files flags document options)
    (hblank : ∀ text ∈ options, Text.isBlank text = false) :
    (¬Once flags → (checked files flags).code = 2) ∧
    (Once flags →
      ((checked files flags).code = 2 ↔ ¬Readable document options) ∧
      ((∀ f ∈ flags, f.adds = false) →
        Delivers flags (checked files flags) (Readable document options)
          (Editor.report document (options.getD ""))) ∧
      (∀ policy, Reads options policy →
        (∃ text, Text.isBlank text = false ∧
          Policy.reader.run text = .ok (added flags policy)) ∧
        ∀ text, Text.isBlank text = false → Policy.reader.run text = .ok (added flags policy) →
          Delivers flags (checked files flags) (Readable document options)
            (Editor.report document text)) ∧
      ∀ others, (∀ f, f ∈ others ↔ f ∈ flags) → Once others →
        checked files others = checked files flags) := by
  refine ⟨fun hrepeated => ?_, fun honce => ⟨?_, fun hadds => ?_, fun policy hpolicy =>
    ⟨added_written flags policy, fun text hb htext => ?_⟩, fun others hs hothers => ?_⟩⟩
  · obtain ⟨fault, hrequest⟩ := request_repeated hproper hrepeated
    rw [checked, answer, hrequest]
    cases fault <;> rfl
  · exact code_eq_two_iff hproper honce hpath hfiles
  · refine answer_delivers hproper honce hpath hfiles (fun policy hpolicy => ?_)
      (report_unreadable hblank)
    rw [report_of_options hblank hpolicy, added_eq hpolicy hadds]
  · refine answer_delivers hproper honce hpath hfiles (fun other hother => ?_) fun hu => ?_
    · rw [hother.unique hpolicy]
      exact report_of_reads hb htext
    · rw [report_of_reads hb htext]
      exact reportUnder_unreadable fun ht => hu ⟨ht, policy, hpolicy⟩
  · obtain ⟨path, hpath⟩ := hpath
    obtain ⟨request, hrequest, hr⟩ := request_of_flags hproper honce hpath
    obtain ⟨other, hother, ho⟩ := request_of_flags (fun f hf => hproper f ((hs f).mp hf)) hothers
      ((hs _).mpr hpath)
    rw [checked, checked, answer, answer, hrequest, hother]
    simp only [Request.answer, answer_of_same honce hr ho hs]

section Sample

def emptyText : String := "\x7b\x7d"

def portsText : String := "\x7b\"checkPorts\":true\x7d"

/-- The editor has one word for a check; the command line refuses to hear it twice. -/
theorem repeated_check_refused :
    (Editor.report emptyText portsText).isValid = true ∧
      (answer (fun _ => .ok emptyText) ["check", "line.json", "--check-ports"]).code = 0 ∧
      (answer (fun _ => .ok emptyText)
        ["check", "line.json", "--check-ports", "--check-ports"]).code = 2 := by
  decide +kernel

def shelfText : String := "\x7b\"nodes\":[[\"shelf\",\"queue\"]]\x7d"

def queueText : String := "\x7b\"exemptKinds\":[\"queue\"]\x7d"

def shelfFiles : Files := fun path => .ok (if path = "line.json" then shelfText else emptyText)

def shelfFlags : List Flag :=
  [.json, .options true "options.json", .exempt false " Queue", .path "line.json"]

theorem isValue_of_head {s : String} (h : s.toList.head? ≠ some '-') : IsValue s :=
  fun c r he => h (by rw [he]; rfl)

theorem shelfFlags_proper : ∀ f ∈ shelfFlags, f.Proper := by
  have hqueue : (Kind.parse? " Queue").isSome = true := by decide +kernel
  have hpath : IsValue "line.json" := isValue_of_head (by decide)
  intro f hf
  simp only [shelfFlags, List.mem_cons, List.not_mem_nil, or_false] at hf
  rcases hf with rfl | rfl | rfl | rfl
  · trivial
  · exact ⟨by decide, fun h => by cases h⟩
  · exact hqueue
  · exact ⟨by decide, hpath⟩

theorem shelf_holding : Holding shelfFiles shelfFlags shelfText (some emptyText) := by
  refine ⟨fun path hp => ?_, fun attached path hp => ⟨emptyText, rfl, ?_⟩, fun h => ?_⟩
  · have hpath : path = "line.json" := by simpa [shelfFlags] using hp
    simp [shelfFiles, hpath]
  · have hpath : attached = true ∧ path = "options.json" := by simpa [shelfFlags] using hp
    simp [shelfFiles, hpath.2]
  · exact absurd (by simp [shelfFlags]) (h true "options.json")

theorem shelf_verdict :
    (∀ f ∈ shelfFlags, f.Proper) ∧ (∃ path, .path path ∈ shelfFlags) ∧
      Holding shelfFiles shelfFlags shelfText (some emptyText) ∧
      (∀ text ∈ some emptyText, Text.isBlank text = false) ∧ Once shelfFlags ∧
      Delivers shelfFlags (checked shelfFiles shelfFlags)
        (Readable shelfText (some emptyText)) (Editor.report shelfText queueText) ∧
      checked shelfFiles (shelfFlags.reverse ++ [.exempt false " Queue"]) =
        checked shelfFiles shelfFlags := by
  have hpath : ∃ path, .path path ∈ shelfFlags := ⟨"line.json", by simp [shelfFlags]⟩
  have hblank : ∀ text ∈ some emptyText, Text.isBlank text = false := by
    rintro _ ⟨⟩
    rfl
  have honce : Once shelfFlags := by simp [Once, shelfFlags, Flag.name]
  have hreads : Policy.reader.run emptyText = .ok .standard := by decide +kernel
  have hqueue : added shelfFlags .standard = ⟨[.queue], false, false⟩ := by decide +kernel
  have hadded : Policy.reader.run queueText = .ok (added shelfFlags .standard) := by
    rw [hqueue]
    decide +kernel
  obtain ⟨_, hagree⟩ := surfaces_agree shelfFiles shelfFlags shelfText (some emptyText)
    shelfFlags_proper hpath shelf_holding hblank
  obtain ⟨_, _, hmerged, hsame⟩ := hagree honce
  refine ⟨shelfFlags_proper, hpath, shelf_holding, hblank, honce, ?_, ?_⟩
  · exact (hmerged .standard hreads).2 queueText rfl hadded
  · refine hsame _ (fun f => ?_) ?_
    · rw [List.mem_append, List.mem_reverse, List.mem_singleton]
      refine or_iff_left_of_imp ?_
      rintro rfl
      simp [shelfFlags]
    · simp [Once, shelfFlags, Flag.name, Flag.mayRepeat]

end Sample

end LineTopology.Proofs.Surfaces
