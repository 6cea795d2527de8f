import NamedConditions.Context.Store
/-!
The effective context of a pass: the environment under the key `env`, over it the accumulated
context, over that the runtime context. A higher layer replaces whole keys, `env` among them.

Main statements: which layer a key comes from, and that the environment is kept where no layer above
has its key.
-/
namespace NamedConditions.Context

/-- The key under which the environment stands: `ENV_KEY`. -/
def envKey : Value := .str "env"

/-- The effective context: `build_effective_context`. -/
def effective (env : Slot) (accumulated runtime : Context) : Context :=
  Layer.merge (Layer.merge [(envKey, env)] accumulated) runtime

/-- Whether the environment of an effective context is the very one that it was made with: no layer
above it has the key, or one that has it holds the very same thing. -/
def keepsEnv (env : Slot) (accumulated runtime : Context) : Bool :=
  ((Layer.find? runtime.reverse envKey).or (Layer.find? accumulated.reverse envKey)).elim true
    env.isSame

theorem sameKey_envKey : envKey.sameKey envKey = true := by
  rw [Value.sameKey_self_iff]
  rfl

/-- The layer that a key comes from: the runtime context, else the accumulated one, else, for `env`
alone, the environment. -/
theorem find?_effective (env : Slot) (accumulated runtime : Context) (key : Value) :
    Layer.find? (effective env accumulated runtime) key =
      (Layer.find? runtime.reverse key).or ((Layer.find? accumulated.reverse key).or
        (if envKey.sameKey key then some env else none)) := by
  rw [effective, Layer.find?_merge, Layer.find?_merge, Layer.find?_cons, Layer.find?_nil]

/-- Where no layer above has the key, the environment is kept and found. -/
theorem keepsEnv_of_absent {accumulated runtime : Context}
    (ha : Layer.find? accumulated.reverse envKey = none)
    (hr : Layer.find? runtime.reverse envKey = none) (env : Slot) :
    keepsEnv env accumulated runtime = true ∧
      Layer.find? (effective env accumulated runtime) envKey = some env := by
  simp [keepsEnv, find?_effective, ha, hr, sameKey_envKey]

end NamedConditions.Context
