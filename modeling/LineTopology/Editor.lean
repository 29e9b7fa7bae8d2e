import LineTopology.Topology.Reading
import LineTopology.Report

namespace LineTopology.Editor

inductive Verdict
  | accepted
  | unreadable (document : Document) (misreading : Json.Misreading)
  | refused (refusal : Refusal)

def read {α : Type} (document : Document) (reader : Json.Reader α) (text : String) :
    Except Verdict α :=
  (reader.run text).mapError (.unreadable document)

/-- The verdict on an edge between two components, from the texts of their records and of the
request, of which only the handles count. -/
def verdict (source target request : String) : Verdict :=
  let answer : Except Verdict Unit := do
    let source ← read .node NodeRecord.reader source
    let target ← read .node NodeRecord.reader target
    let request ← read .request EdgeRequest.reader request
    (source.checkLink target request.sourceHandle request.targetHandle).mapError .refused
  match answer with
  | .ok () => .accepted
  | .error verdict => verdict

def Verdict.toJson : Verdict → Json
  | .accepted => .object [("accepted", .boolean true)]
  | .unreadable document m =>
      .object [("accepted", .boolean false), ("kind", .string "parse"),
        ("reason", .string (document.failure m))]
  | .refused refusal =>
      .object [("accepted", .boolean false), ("kind", .string refusal.concern.name),
        ("reason", .string refusal.reason)]

def reportUnder (policy : Policy) (text : String) : Report :=
  match Topology.reader.run text with
  | .ok topology => topology.report policy
  | .error m => ⟨[.unreadable .topology m]⟩

/-- The report on a text that should hold a topology, under the policy that another text holds; a
blank one stands for the standard policy. -/
def report (text policyText : String) : Report :=
  if Text.isBlank policyText then reportUnder .standard text
  else
    match Policy.reader.run policyText with
    | .ok policy => reportUnder policy text
    | .error m => ⟨[.unreadable .policy m]⟩

end LineTopology.Editor
