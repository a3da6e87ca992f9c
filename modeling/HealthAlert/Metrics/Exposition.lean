import HealthAlert.Metrics.Basic

/-!
# Metrics as text

`Metrics.exposition` writes the metrics line by line: for each a comment that explains it, one
with its type, and its samples, labels in alphabetical order. The samples of durations are their
counts only.
-/

namespace HealthAlert

namespace Metrics

/-- A count as a sample's value: with a point up to six digits, and beyond with an exponent whose
zeros at the end are dropped. -/
def sampleValue (n : Nat) : String :=
  let ds := Nat.toDigits 10 n
  if ds.length ≤ 6 then String.ofList ds ++ ".0"
  else
    let digits := (ds.drop 1).reverse.dropWhile (· == '0')
    String.ofList (ds.take 1) ++
      (if digits.isEmpty then "" else "." ++ String.ofList digits.reverse) ++
      "e+0" ++ toString (ds.length - 1)

/-- A label's value between its quotes. -/
def escapeLabel (s : String) : String :=
  String.ofList (s.toList.flatMap fun c =>
    if c == '\\' then ['\\', '\\']
    else if c == '\n' then ['\\', 'n']
    else if c == '"' then ['\\', '"']
    else [c])

/-- A sample with its labels. -/
def sample (name : String) (labels : List (String × String)) (n : Nat) : String :=
  let shown := labels.map fun l => l.1 ++ "=\"" ++ escapeLabel l.2 ++ "\""
  name ++ (if labels.isEmpty then "" else "\x7b" ++ String.intercalate "," shown ++ "\x7d") ++
    " " ++ sampleValue n

/-- The comments in front of a metric's samples. -/
def heading (name help type : String) : List String :=
  ["# HELP " ++ name ++ " " ++ help, "# TYPE " ++ name ++ " " ++ type]

/-- The samples of the sizes of templates. -/
def sizeSamples (h : Histogram) : List String :=
  h.within.map (fun e => sample "template_bytes_bucket" [("le", sampleValue e.1)] e.2) ++
    [sample "template_bytes_bucket" [("le", "+Inf")] h.observed,
      sample "template_bytes_count" [] h.observed,
      sample "template_bytes_sum" [] h.sum]

/-- The metrics, line by line. -/
def exposition (m : Metrics) : List String :=
  heading "http_requests_total" "HTTP requests handled" "counter" ++
    m.requests.map (fun e => sample "http_requests_total"
      [("method", e.1.method), ("route", e.1.route), ("status_code", toString e.1.status)] e.2) ++
    heading "http_request_duration_seconds" "HTTP request handling time in seconds" "histogram" ++
    m.durations.map (fun e => sample "http_request_duration_seconds_count"
      [("method", e.1.method), ("route", e.1.route)] e.2) ++
    heading "http_requests_in_progress" "HTTP requests being handled" "gauge" ++
    m.inProgress.map (fun e => sample "http_requests_in_progress" [("method", e.1)] e.2) ++
    heading "http_errors_total" "Requests that raised an unhandled exception" "counter" ++
    m.errors.map (fun e => sample "http_errors_total"
      [("error_type", e.1.errorType), ("method", e.1.method), ("route", e.1.route)] e.2) ++
    heading "template_renders_total" "Alert template renders" "counter" ++
    m.renders.map (fun e => sample "template_renders_total"
      [("action_mode", e.1.mode.label), ("status", e.1.outcome.label)] e.2) ++
    heading "template_render_duration_seconds" "Alert template render time in seconds"
      "histogram" ++
    [sample "template_render_duration_seconds_count" [] m.renderDurations] ++
    heading "template_bytes" "Rendered alert template size in bytes" "histogram" ++
    sizeSamples m.templateSizes

end Metrics

end HealthAlert
