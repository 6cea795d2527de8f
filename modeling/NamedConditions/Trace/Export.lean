import NamedConditions.Context.Source
import NamedConditions.Release
import NamedConditions.Trace.Limit
import NamedConditions.Trace.Resource
/-!
Configuring the export of spans. What is exported carries a resource, a dictionary of attributes,
and goes to an endpoint by one of two protocols. Variables of the process win over what the caller
asks for. A host that already exports is left alone unless it is forced. What is made on the way is
recorded, since a configuration that fails half-way has made it: nothing is installed if the
variables limit spans in a way that makes no sense, but by then there is a resource. The exporter
and the processor that feeds it are made by a library, which may raise; the library is a parameter.

Main statements: nothing is installed unless the host accepts it and everything before was made, and
what raises on the way leaves the host as it was.
-/
namespace NamedConditions

/-- What the caller asks for, as the keyword arguments of `configure_otel`. -/
structure ExportSettings where
  serviceName : Value
  endpoint : Value
  protocol : Value
  /-- Further attributes of the resource. -/
  attributes : Value
  /-- The version that the resource reports; null for the program's own. -/
  version : Value
  /-- Whether a host that already exports is configured again. -/
  force : Value

/-- How spans leave the program. -/
inductive Exporter
  | grpc (endpoint : Value)
  | http (endpoint : Value)

/-- What is installed in a host. -/
structure Installation where
  resource : Entries
  exporter : Exporter

/-- The host of the program: whether it has the means to export (`has_otel`), and whether a provider
of spans is set in it. -/
structure ExportHost where
  isAvailable : Bool
  isProvided : Bool

namespace Exporter

/-- Where collectors listen by the first protocol. -/
def grpcEndpoint : String := "http://localhost:4317"

/-- Where collectors listen by the second protocol. -/
def httpEndpoint : String := "http://localhost:4318/v1/traces"

/-- The exporter for a protocol, as `_build_exporter` chooses it; the usual endpoint of one protocol
is not used for the other. -/
def make (protocol endpoint : Value) : Exporter :=
  if protocol.text? = some "grpc" then .grpc endpoint
  else if endpoint.text? = some grpcEndpoint then .http (.str httpEndpoint)
  else .http endpoint

/-- The options with which an exporter is made. -/
def options : Exporter → Entries
  | grpc endpoint => [(.str "endpoint", endpoint), (.str "insecure", .bool true)]
  | http endpoint => [(.str "endpoint", endpoint)]

end Exporter

/-- The library with which exporters and the processors that feed them are made. Either may raise,
for what it is made with or for what the process says. -/
structure ExportMakers where
  exporter (process : Variables) (e : Exporter) : Except Raised Unit
  processor (process : Variables) (e : Exporter) : Except Raised Unit

/-- A library that never raises. -/
def ExportMakers.willing : ExportMakers := ⟨fun _ _ => .ok (), fun _ _ => .ok ()⟩

namespace ExportSettings

/-- What holds if the caller asks for nothing. -/
def usual : ExportSettings :=
  ⟨.str programName, .str Exporter.grpcEndpoint, .str "grpc", .null, .null, .bool false⟩

/-- A setting: the text of a variable if it is set, even if it is empty, else what was asked for. -/
def chosen (process : Variables) (name : String) (asked : Value) : Value :=
  (process.lookup name).elim asked .str

/-- The name of the service. -/
def service (s : ExportSettings) (process : Variables) : Value :=
  chosen process "OTEL_SERVICE_NAME" s.serviceName

/-- The version that the resource reports. -/
def reportedVersion (s : ExportSettings) : Value :=
  match s.version with
  | .null => .str programVersion
  | v => v

/-- The attributes that every resource has. -/
def ownAttributes (s : ExportSettings) (process : Variables) : Entries :=
  [(.str "service.name", s.service process), (.str "envname.version", s.reportedVersion)]

/-- The attributes that the caller asks for, before any of the process's own. -/
def askedAttributes (s : ExportSettings) (process : Variables) : Except Raised Entries :=
  s.attributes.optionalEntries.map fun extra => Layer.merge (s.ownAttributes process) extra

/-- The text in which the process names attributes. -/
def attributesText (process : Variables) : String :=
  (process.lookup "OTEL_RESOURCE_ATTRIBUTES").getD ""

/-- The attributes of the resource, those of the process last: `_resource_attributes`. -/
def resource (s : ExportSettings) (process : Variables) : Except Raised Entries :=
  (s.askedAttributes process).map fun asked =>
    Layer.merge asked (Resource.parse (attributesText process))

/-- The exporter. -/
def exporter (s : ExportSettings) (process : Variables) : Exporter :=
  .make (chosen process "OTEL_EXPORTER_OTLP_PROTOCOL" s.protocol)
    (chosen process "OTEL_EXPORTER_OTLP_ENDPOINT" s.endpoint)

end ExportSettings

namespace ExportHost

/-- Whether the host exports: `_is_provider_configured`. -/
def isConfigured (h : ExportHost) : Bool := h.isAvailable && h.isProvided

/-- Whether settings are to be installed in the host. -/
def accepts (h : ExportHost) (s : ExportSettings) : Except Raised Bool :=
  if !h.isAvailable then .ok false
  else if h.isProvided then s.force.hostTruth
  else .ok true

end ExportHost

/-- What is done on the way to an installation. -/
inductive ExportDeed
  | resource (attributes : Entries)
  | exporter (made : Exporter)
  | install

/-- Whether a provider is installed. -/
def ExportDeed.isInstall : ExportDeed → Bool
  | install => true
  | _ => false

/-- A host after something was done in it: where a provider is installed, it exports. -/
def ExportHost.afterDeed (h : ExportHost) : ExportDeed → ExportHost
  | .install => { h with isProvided := true }
  | _ => h

/-- A host that is being configured, and what has been done so far, the latest last. -/
structure Configuring where
  host : ExportHost
  deeds : List ExportDeed

/-- Configurations, which keep what they have done when they fail. -/
abbrev Configuration := EStateM Raised Configuring

namespace Configuration

/-- Does something. -/
def perform (d : ExportDeed) : Configuration Unit :=
  modify fun c => ⟨c.host.afterDeed d, c.deeds ++ [d]⟩

/-- Has an exporter and its processor made and installs what was made. -/
def install (m : ExportMakers) (process : Variables) (e : Exporter) : Configuration Unit := do
  ofExcept (m.exporter process e)
  perform (.exporter e)
  ofExcept (m.processor process e)
  perform .install

/-- Configures the host, unless it is to be left alone: the stages of `configure_otel`, in order. -/
def configure (m : ExportMakers) (s : ExportSettings) (process : Variables) :
    Configuration Unit := do
  if ← ofExcept ((← get).host.accepts s) then
    let attributes ← ofExcept (s.resource process)
    perform (.resource attributes)
    ofExcept (Sampler.check process)
    ofExcept (SpanLimit.check process)
    install m process (s.exporter process)

theorem get_bind {α : Type} (f : Configuring → Configuration α) (c : Configuring) :
    (get >>= f) c = f c c := rfl

theorem ofExcept_bind {α β : Type} (r : Except Raised α) (f : α → Configuration β)
    (c : Configuring) :
    (ofExcept r >>= f) c = match r with
      | .ok a => f a c
      | .error e => .error e c := by
  cases r <;> rfl

theorem perform_bind {α : Type} (d : ExportDeed) (f : Unit → Configuration α) (c : Configuring) :
    (perform d >>= f) c = f () ⟨c.host.afterDeed d, c.deeds ++ [d]⟩ := rfl

end Configuration

/-- What was installed, if anything was. -/
def Installation.ofDeeds? : List ExportDeed → Option Installation
  | [.resource attributes, .exporter made, .install] => some ⟨attributes, made⟩
  | _ => none

namespace ExportHost

/-- Configures the host: what is installed, if anything, and the host afterwards. -/
def configure (h : ExportHost) (m : ExportMakers) (s : ExportSettings) (process : Variables) :
    Except Raised (Option Installation × ExportHost) :=
  match (Configuration.configure m s process).run ⟨h, []⟩ with
  | .ok () c => .ok (Installation.ofDeeds? c.deeds, c.host)
  | .error e _ => .error e

/-- An error of something that a configuration reads or has made: whether the host is forced, the
attributes, the variables for samplers and limits, the exporter or its processor. -/
inductive Faults (h : ExportHost) (m : ExportMakers) (s : ExportSettings) (process : Variables)
    (e : Raised) : Prop
  | force (he : h.accepts s = .error e)
  | attributes (he : s.resource process = .error e)
  | sampler (he : Sampler.check process = .error e)
  | limit (he : SpanLimit.check process = .error e)
  | exporter (he : m.exporter process (s.exporter process) = .error e)
  | processor (he : m.processor process (s.exporter process) = .error e)

/-- How configuring a host ends. -/
inductive Ends (h : ExportHost) (m : ExportMakers) (s : ExportSettings) (process : Variables) :
    EStateM.Result Raised Configuring Unit → Prop
  | leaves (ha : h.accepts s = .ok false) : Ends h m s process (.ok () ⟨h, []⟩)
  | installs {attributes : Entries} (ha : h.accepts s = .ok true)
    (hr : s.resource process = .ok attributes) : Ends h m s process (.ok () ⟨⟨h.isAvailable, true⟩,
      [.resource attributes, .exporter (s.exporter process), .install]⟩)
  | raises {error : Raised} {deeds : List ExportDeed} (ha : h.accepts s ≠ .ok false)
    (hd : ∀ d ∈ deeds, d.isInstall = false) (he : h.Faults m s process error) :
    Ends h m s process (.error error ⟨h, deeds⟩)

/-- Behind the resource everything is installed, or something fails before that. -/
theorem ends_install {h : ExportHost} {m : ExportMakers} {s : ExportSettings} {process : Variables}
    {attributes : Entries} (ha : h.accepts s = .ok true)
    (hr : s.resource process = .ok attributes) :
    Ends h m s process
      (Configuration.install m process (s.exporter process) ⟨h, [.resource attributes]⟩) := by
  have hne : h.accepts s ≠ .ok false := by rw [ha]; exact nofun
  have hexporter : ∀ d ∈ [ExportDeed.exporter (s.exporter process)], d.isInstall = false :=
    List.forall_mem_cons.2 ⟨rfl, nofun⟩
  rw [Configuration.install, Configuration.ofExcept_bind]
  cases he : m.exporter process (s.exporter process) with
  | error e =>
    exact .raises hne (List.forall_mem_cons.2 ⟨rfl, nofun⟩) (.exporter he)
  | ok _ =>
    dsimp only
    rw [Configuration.perform_bind, Configuration.ofExcept_bind]
    cases hp : m.processor process (s.exporter process) with
    | error e => exact .raises hne (List.forall_mem_cons.2 ⟨rfl, hexporter⟩) (.processor hp)
    | ok _ => exact .installs ha hr

/-- A host is left alone, or something is installed in it, or something fails before that. -/
theorem ends_configure (h : ExportHost) (m : ExportMakers) (s : ExportSettings)
    (process : Variables) :
    Ends h m s process ((Configuration.configure m s process).run ⟨h, []⟩) := by
  unfold Configuration.configure
  rw [EStateM.run, Configuration.get_bind, Configuration.ofExcept_bind]
  cases ha : h.accepts s with
  | error e => exact .raises (by rw [ha]; exact nofun) nofun (.force ha)
  | ok accepted =>
    cases accepted with
    | false => exact .leaves ha
    | true =>
      have hne : h.accepts s ≠ .ok false := by rw [ha]; exact nofun
      dsimp only
      rw [if_pos rfl, Configuration.ofExcept_bind]
      cases hr : s.resource process with
      | error e => exact .raises hne nofun (.attributes hr)
      | ok attributes =>
        have hmade : ∀ d ∈ [ExportDeed.resource attributes], d.isInstall = false :=
          List.forall_mem_cons.2 ⟨rfl, nofun⟩
        dsimp only
        rw [Configuration.perform_bind, Configuration.ofExcept_bind]
        cases hs : Sampler.check process with
        | error e => exact .raises hne hmade (.sampler hs)
        | ok _ =>
          dsimp only
          rw [Configuration.ofExcept_bind]
          cases hl : SpanLimit.check process with
          | error e => exact .raises hne hmade (.limit hl)
          | ok _ => exact ends_install ha hr

variable {h h' : ExportHost} {m : ExportMakers} {s : ExportSettings} {process : Variables}
  {i : Installation}

/-- What is installed is what the settings and the variables say. -/
theorem of_configure (hc : h.configure m s process = .ok (some i, h')) :
    h.accepts s = .ok true ∧ s.resource process = .ok i.resource ∧
      i.exporter = s.exporter process ∧ h' = ⟨h.isAvailable, true⟩ := by
  have hends := ends_configure h m s process
  rw [configure] at hc
  generalize (Configuration.configure m s process).run ⟨h, []⟩ = r at hends hc
  cases hends with
  | leaves => cases hc
  | installs ha hr =>
    cases hc
    exact ⟨ha, hr, rfl, rfl⟩
  | raises => cases hc

end ExportHost

end NamedConditions
