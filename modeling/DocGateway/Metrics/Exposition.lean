import DocGateway.Metrics.Registry
import DocGateway.Number.DoubleDigits
/-!
# The text of metrics

Metrics are shown line by line, in families: a line of help, a line with the type, then one line for
each number. Families come in the order of their names, series in the order of their labels. A
family with labels but without series is left out.
-/

namespace DocGateway

/-- Numbers of one name, with what they mean. -/
structure MetricFamily where
  name : String
  help : String
  kind : String
  /-- For each number what follows the family's name on its line: an ending, labels, and the
  number. -/
  samples : List (String × List (String × String) × String)
deriving Repr

namespace MetricFamily

/-- A label value as it stands between quotes. -/
def escaped (s : String) : String :=
  String.ofList <| s.toList.flatMap fun c =>
    if c = '\\' then ['\\', '\\'] else if c = '"' then ['\\', '"']
    else if c = '\n' then ['\\', 'n'] else [c]

/-- Labels in braces. -/
def labelText (labels : List (String × String)) : String :=
  if labels.isEmpty then ""
  else
    let pairs := labels.map fun (key, value) => key ++ "=\"" ++ escaped value ++ "\""
    "\x7b" ++ ",".intercalate pairs ++ "\x7d"

/-- The lines of a family. -/
def lines (f : MetricFamily) : List String :=
  ["# HELP " ++ f.name ++ " " ++ f.help, "# TYPE " ++ f.name ++ " " ++ f.kind] ++
    f.samples.map fun (ending, labels, number) => f.name ++ ending ++ labelText labels ++
    " " ++ number

/-- A family of one number. -/
def single (name help kind : String) (number : Int) : MetricFamily :=
  ⟨name, help, kind, [("", [], toString number)]⟩

/-- A family of counts under a label. -/
def ofTally (name help label : String) (t : Tally) : MetricFamily :=
  let sorted := t.counts.mergeSort fun a b => a.1 ≤ b.1
  ⟨name, help, "counter", sorted.map fun (value, n) => ("", [(label, value)], toString n)⟩

end MetricFamily

namespace StageLabels

/-- Labels by name. -/
def pairs (l : StageLabels) : List (String × String) :=
  [("position", l.position), ("stage", l.stage), ("status", l.status)]

/-- The order of series: by place, then by name, then by how they ended. -/
def le (a b : StageLabels) : Bool :=
  decide (a.position < b.position) || a.position == b.position &&
    (decide (a.stage < b.stage) || a.stage == b.stage && decide (a.status ≤ b.status))

end StageLabels

/-- The numbers of a histogram: its buckets, one for all observations, their sum and their count. -/
def Histogram.samples (h : Histogram) (labels : List (String × String)) :
    List (String × List (String × String) × String) :=
  (durationBounds.zip h.buckets).map
      (fun (bound, n) => ("_bucket", labels ++ [("le", bound.plainText)], toString n))
    ++ [("_bucket", labels ++ [("le", "+Inf")], toString h.count),
      ("_sum", labels, h.sum.plainText), ("_count", labels, toString h.count)]

namespace Metrics

/-- The durations of stages. -/
def stageFamily (m : Metrics) : MetricFamily where
  name := "mongate_plugins_duration_seconds"
  help := "Pipeline stage duration in seconds by position, stage and status"
  kind := "histogram"
  samples :=
    (m.stages.mergeSort fun a b => a.1.le b.1).flatMap fun (labels, h) => h.samples labels.pairs

/-- The families that have numbers, in the order of their names. -/
def families (m : Metrics) : List MetricFamily :=
  let all : List MetricFamily :=
    [.single "mongate_client_accept_total" "Total number of accepted client connections"
      "counter" m.accepted,
      .ofTally "mongate_client_command_total" "Total commands by name" "command" m.commands,
      .single "mongate_client_connections_open" "Number of currently open client connections"
        "gauge"
        m.openConnections,
      .ofTally "mongate_client_message_total" "Total messages by opcode" "opcode" m.messages,
      .single "mongate_cursors_expired_total"
        "Total cursors killed after idling past the cursor timeout" "counter"
        m.cursorsExpired,
      .single "mongate_cursors_opened_total" "Total cursors added to the cursor cache" "counter"
        m.cursorsOpened,
      .ofTally "mongate_errors_total" "Total inline error replies by code" "code" m.errors,
      m.stageFamily]
  all.filter fun f => !f.samples.isEmpty

/-- All lines. -/
def lines (m : Metrics) : List String := m.families.flatMap (·.lines)

end Metrics

end DocGateway
