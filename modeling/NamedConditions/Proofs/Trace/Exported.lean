import NamedConditions.Proofs.Trace.Parsed
import NamedConditions.Trace.Export
/-!
What an installation exports, and where. The resource is made of three ranks of attributes: those
that every resource has, over them those that the caller asks for, and over both those that the
process names in one text. The exporter is chosen by a protocol and an endpoint, for each of which a
variable of the process comes before what the caller asks for.

Main statements: what a resource holds under a key (`resource_by_rank`); the name of the service is
of the lowest rank also where a variable of its own gives it, so that an attribute that the caller
asks for hides it. Which exporter is made, and for which endpoint (`exporter_of_choices`); the usual
endpoint of one protocol is not used for the other, wherever it comes from
(`usual_endpoint_replaced`).
-/
namespace NamedConditions

namespace ExportSettings

variable {s : ExportSettings} {process : Variables} {attributes : Entries}

theorem chosen_of_some {name text : String} {asked : Value}
    (hl : process.lookup name = some text) : chosen process name asked = .str text := by
  rw [chosen, hl]
  rfl

theorem chosen_of_none {name : String} {asked : Value} (hl : process.lookup name = none) :
    chosen process name asked = asked := by
  rw [chosen, hl]
  rfl

/-! ## Ranks of attributes -/

/-- What the process names last under a key, in its text for attributes. -/
def lastNamed? (process : Variables) (key : Value) : Option String :=
  key.text?.bind fun k => (Resource.pairs (attributesText process)).reverse.lookup k

/-- The attributes of all ranks, the lowest first. -/
def ranked (s : ExportSettings) (process : Variables) (asked : Entries) : Entries :=
  s.ownAttributes process ++ asked ++ Layer.ofTexts (Resource.pairs (attributesText process))

theorem distinct_ownAttributes (s : ExportSettings) (process : Variables) :
    Layer.Distinct (s.ownAttributes process) := by
  refine List.pairwise_pair.2 (Bool.eq_false_iff.2 fun h => ?_)
  have htext := (Value.sameKey_str_iff _ _).1 h
  exact absurd (Option.some.inj htext) (by decide)

/-- A resource overlays the attributes of all ranks. -/
theorem exists_of_resource (hr : s.resource process = .ok attributes) :
    ∃ asked, s.attributes.optionalEntries = .ok asked ∧
      attributes = Layer.overlay (s.ranked process asked) := by
  rw [resource, askedAttributes] at hr
  cases ho : s.attributes.optionalEntries with
  | error e =>
    rw [ho] at hr
    cases hr
  | ok asked =>
    rw [ho] at hr
    have hattributes : attributes = Layer.merge (Layer.merge (s.ownAttributes process) asked)
        (Resource.parse (attributesText process)) := (Except.ok.inj hr).symm
    refine ⟨asked, rfl, ?_⟩
    rw [hattributes, Resource.parse_eq_overlay, Layer.merge_overlay_right,
      ← Layer.overlay_of_distinct (distinct_ownAttributes s process), Layer.merge_overlay,
      Layer.merge_overlay, ranked]

/-- The highest rank that has a key says what stands under it. -/
theorem find?_ranked (s : ExportSettings) (process : Variables) (asked : Entries) (key : Value) :
    Layer.find? (Layer.overlay (s.ranked process asked)) key =
      ((lastNamed? process key).map .str).or ((Layer.find? (Layer.overlay asked) key).or
        (Layer.find? (s.ownAttributes process) key)) := by
  have hreverse (xs : List (String × String)) :
      (Layer.ofTexts xs).reverse = Layer.ofTexts xs.reverse := List.map_reverse.symm
  rw [ranked, Layer.find?_overlay, Layer.find?_overlay, List.reverse_append, List.reverse_append,
    Layer.find?_append, Layer.find?_append, hreverse, Layer.find?_ofTexts,
    Layer.find?_reverse_of_distinct (distinct_ownAttributes s process), lastNamed?]

/-- Of the ranks below the process's text, the lowest is where the variable for the service's name
stands. -/
theorem find?_service (asked : Entries) {name : String}
    (hn : process.lookup "OTEL_SERVICE_NAME" = some name) :
    Layer.find? (Layer.overlay (s.ranked process asked)) (.str "service.name") =
      ((lastNamed? process (.str "service.name")).map .str).or
        ((Layer.find? (Layer.overlay asked) (.str "service.name")).or (some (.str name))) := by
  have hown : Layer.find? (s.ownAttributes process) (.str "service.name") = some (.str name) := by
    have hself : (Value.str "service.name").sameKey (.str "service.name") = true :=
      (Value.sameKey_str_iff _ _).2 rfl
    rw [ownAttributes, Layer.find?_cons, if_pos hself, service, chosen_of_some hn]
  rw [find?_ranked, hown]

/-! ## Choices of an exporter -/

/-- A setting is a text: the variable has it, or is not set and the caller asks for it. -/
theorem text?_chosen (process : Variables) (name text : String) (asked : Value) :
    (chosen process name asked).text? = some text ↔
      (process.lookup name).elim (asked.text? = some text) (· = text) := by
  cases hl : process.lookup name with
  | none => rw [chosen_of_none hl]; rfl
  | some t => rw [chosen_of_some hl]; exact Option.some_inj

/-- The protocol is the first one: the variable's text if it is set, else what is asked for. -/
def ChoosesGrpc (s : ExportSettings) (process : Variables) : Prop :=
  (process.lookup "OTEL_EXPORTER_OTLP_PROTOCOL").elim (s.protocol.text? = some "grpc") (· = "grpc")

/-- Where an exporter has to send spans to. -/
structure Aims (s : ExportSettings) (process : Variables) (endpoint : Value) : Prop where
  /-- The variable's text, if it is set, unless it is the usual endpoint of the other protocol. -/
  told : ∀ text, process.lookup "OTEL_EXPORTER_OTLP_ENDPOINT" = some text →
    text ≠ Exporter.grpcEndpoint ∨ s.ChoosesGrpc process → endpoint = .str text
  /-- The usual endpoint of the first protocol is not used for the second one. -/
  replaced : process.lookup "OTEL_EXPORTER_OTLP_ENDPOINT" = some Exporter.grpcEndpoint →
    ¬s.ChoosesGrpc process → endpoint = .str Exporter.httpEndpoint
  /-- What is asked for, if the variable is not set and that is not the first usual endpoint. -/
  asked : process.lookup "OTEL_EXPORTER_OTLP_ENDPOINT" = none →
    s.endpoint.text? ≠ some Exporter.grpcEndpoint → endpoint = s.endpoint
  /-- Else the usual endpoint of the first protocol, if that is chosen. -/
  usualGrpc : process.lookup "OTEL_EXPORTER_OTLP_ENDPOINT" = none →
    s.endpoint.text? = some Exporter.grpcEndpoint → s.ChoosesGrpc process →
      endpoint.text? = some Exporter.grpcEndpoint
  /-- And else that of the second one. -/
  usualHttp : process.lookup "OTEL_EXPORTER_OTLP_ENDPOINT" = none →
    s.endpoint.text? = some Exporter.grpcEndpoint → ¬s.ChoosesGrpc process →
      endpoint = .str Exporter.httpEndpoint

/-- The endpoint that is told or asked for is right for the first protocol, and for the second one
if it is not the usual endpoint of the first. -/
theorem aims_chosen (h : s.ChoosesGrpc process ∨
    (chosen process "OTEL_EXPORTER_OTLP_ENDPOINT" s.endpoint).text? ≠ some Exporter.grpcEndpoint) :
    s.Aims process (chosen process "OTEL_EXPORTER_OTLP_ENDPOINT" s.endpoint) where
  told _ hl _ := chosen_of_some hl
  replaced hl hnot := by
    rw [chosen_of_some hl] at h
    exact absurd rfl (h.resolve_left hnot)
  asked hl _ := chosen_of_none hl
  usualGrpc hl he _ := by rw [chosen_of_none hl, he]
  usualHttp hl he hnot := by
    rw [chosen_of_none hl] at h
    exact absurd he (h.resolve_left hnot)

/-- Else the usual endpoint of the second protocol is. -/
theorem aims_usual (hnot : ¬s.ChoosesGrpc process)
    (he : (chosen process "OTEL_EXPORTER_OTLP_ENDPOINT" s.endpoint).text? =
      some Exporter.grpcEndpoint) : s.Aims process (.str Exporter.httpEndpoint) where
  told text hl h := by
    rw [chosen_of_some hl] at he
    exact absurd (Option.some.inj he) (h.resolve_right hnot)
  replaced _ _ := rfl
  asked hl hne := by
    rw [chosen_of_none hl] at he
    exact absurd he hne
  usualGrpc _ _ hg := absurd hg hnot
  usualHttp _ _ _ := rfl

/-- The exporter is made for the protocol that is chosen and for the right endpoint. -/
theorem exists_exporter (s : ExportSettings) (process : Variables) :
    ∃ endpoint, s.Aims process endpoint ∧
      (s.ChoosesGrpc process → s.exporter process = .grpc endpoint) ∧
      (¬s.ChoosesGrpc process → s.exporter process = .http endpoint) := by
  have hgrpc := text?_chosen process "OTEL_EXPORTER_OTLP_PROTOCOL" "grpc" s.protocol
  rw [exporter, Exporter.make]
  by_cases hc : s.ChoosesGrpc process
  · rw [if_pos (hgrpc.2 hc)]
    exact ⟨_, aims_chosen (.inl hc), fun _ => rfl, absurd hc⟩
  · rw [if_neg fun h => hc (hgrpc.1 h)]
    split
    next he => exact ⟨_, aims_usual hc he, fun h => absurd h hc, fun _ => rfl⟩
    next he => exact ⟨_, aims_chosen (.inr he), fun h => absurd h hc, fun _ => rfl⟩

end ExportSettings

namespace ExportHost

open ExportSettings

variable {h h' : ExportHost} {m : ExportMakers} {s : ExportSettings} {process : Variables}
  {i : Installation}

/-- What an installed resource holds: under a key, what the process's text names last, else what the
caller asks for, else what every resource has. A variable for the name of the service counts among
the last, so that the name comes from the process if and only if the text names one too or the
caller asks for no other. -/
theorem resource_by_rank (hc : h.configure m s process = .ok (some i, h')) :
    ∃ asked, s.attributes.optionalEntries = .ok asked ∧
      i.resource = Layer.overlay (s.ranked process asked) ∧
      (∀ key, Layer.find? i.resource key =
        ((lastNamed? process key).map .str).or ((Layer.find? (Layer.overlay asked) key).or
          (Layer.find? (s.ownAttributes process) key))) ∧
      ∀ name, process.lookup "OTEL_SERVICE_NAME" = some name →
        (Layer.find? i.resource (.str "service.name") =
            some (.str ((lastNamed? process (.str "service.name")).getD name)) ↔
          (lastNamed? process (.str "service.name")).isSome ∨
            ∀ v, Layer.find? (Layer.overlay asked) (.str "service.name") = some v →
              v = .str name) := by
  obtain ⟨-, hr, -, -⟩ := of_configure hc
  obtain ⟨asked, ha, hi⟩ := exists_of_resource hr
  refine ⟨asked, ha, hi, fun key => ?_, fun name hn => ?_⟩
  · rw [hi, find?_ranked]
  · rw [hi, find?_service asked hn]
    cases lastNamed? process (.str "service.name") with
    | some text => exact iff_of_true rfl (.inl rfl)
    | none =>
      cases Layer.find? (Layer.overlay asked) (.str "service.name") with
      | none => exact iff_of_true rfl (.inr nofun)
      | some v => simp

/-- Settings that ask for a name of the service among the attributes. -/
def named : ExportSettings :=
  { ExportSettings.usual with
    attributes := .dict [(.str "team", .str "arg"), (.str "service.name", .str "argued")] }

/-- The text of the process wins over the attributes that are asked for, with its last value. The
variable for the name of the service does not win over them. -/
theorem resource_by_rank_hidden :
    ∃ i, configure ⟨true, false⟩ .willing named [("OTEL_SERVICE_NAME", "told"),
        ("OTEL_RESOURCE_ATTRIBUTES", "team=env,team=last")] = .ok (some i, ⟨true, true⟩) ∧
      Layer.find? i.resource (.str "team") = some (.str "last") ∧
      Layer.find? i.resource (.str "service.name") ≠ some (.str "told") := by
  refine ⟨_, rfl, ?_⟩
  obtain ⟨asked, ha, -, hfind, hname⟩ := resource_by_rank
    (rfl : configure ⟨true, false⟩ .willing named [("OTEL_SERVICE_NAME", "told"),
      ("OTEL_RESOURCE_ATTRIBUTES", "team=env,team=last")] = .ok (some _, ⟨true, true⟩))
  cases ha
  refine ⟨(hfind _).trans rfl, fun htold => ?_⟩
  rcases (hname "told" rfl).1 htold with hsome | hother
  · cases hsome
  · exact absurd (Value.str.inj (hother _ rfl)) (by decide : "argued" ≠ "told")

/-- The exporter that is installed is the one for the protocol that is chosen, with the options of
that protocol, and its endpoint is what the variable says, else what is asked for; only the usual
endpoint of the first protocol becomes that of the second one where the latter is chosen. -/
theorem exporter_of_choices (hc : h.configure m s process = .ok (some i, h')) :
    ∃ endpoint, s.Aims process endpoint ∧
      (s.ChoosesGrpc process → i.exporter = .grpc endpoint ∧
        i.exporter.options = [(.str "endpoint", endpoint), (.str "insecure", .bool true)]) ∧
      (¬s.ChoosesGrpc process → i.exporter = .http endpoint ∧
        i.exporter.options = [(.str "endpoint", endpoint)]) := by
  obtain ⟨-, -, hexporter, -⟩ := of_configure hc
  obtain ⟨endpoint, haims, hgrpc, hhttp⟩ := exists_exporter s process
  refine ⟨endpoint, haims, fun hg => ?_, fun hg => ?_⟩
  · rw [hexporter, hgrpc hg]
    exact ⟨rfl, rfl⟩
  · rw [hexporter, hhttp hg]
    exact ⟨rfl, rfl⟩

/-- A variable that chooses the second protocol takes the usual endpoint with it. -/
theorem exporter_of_choices_http :
    ∃ i, configure ⟨true, false⟩ .willing .usual
        [("OTEL_EXPORTER_OTLP_PROTOCOL", "http/protobuf")] = .ok (some i, ⟨true, true⟩) ∧
      i.exporter = .http (.str Exporter.httpEndpoint) := by
  refine ⟨_, rfl, ?_⟩
  obtain ⟨endpoint, haims, -, hhttp⟩ := exporter_of_choices
    (rfl : configure ⟨true, false⟩ .willing .usual
      [("OTEL_EXPORTER_OTLP_PROTOCOL", "http/protobuf")] = .ok (some _, ⟨true, true⟩))
  have hnot : ¬ChoosesGrpc .usual [("OTEL_EXPORTER_OTLP_PROTOCOL", "http/protobuf")] :=
    fun h => absurd h (by decide : "http/protobuf" ≠ "grpc")
  rw [(hhttp hnot).1, haims.usualHttp rfl rfl hnot]

/-- The usual endpoint of the first protocol is replaced for the second one also where the variable
for the endpoint says it. -/
theorem usual_endpoint_replaced :
    ∃ i, configure ⟨true, false⟩ .willing .usual [("OTEL_EXPORTER_OTLP_PROTOCOL", "http/protobuf"),
        ("OTEL_EXPORTER_OTLP_ENDPOINT", "http://localhost:4317")] =
        .ok (some i, ⟨true, true⟩) ∧
      i.exporter.options = [(.str "endpoint", .str "http://localhost:4318/v1/traces")] ∧
      "http://localhost:4318/v1/traces" ≠ "http://localhost:4317" :=
  ⟨_, rfl, rfl, by decide⟩

end ExportHost

end NamedConditions
