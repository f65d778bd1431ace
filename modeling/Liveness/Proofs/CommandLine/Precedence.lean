import Liveness.Proofs.CommandLine.Spelling

/-!
# Command line over environment over default

The value of an option is the one on the command line; if there is none, the one of its variable;
and if that is not set either, the default of the command. Nothing else matters: neither the order
of the options nor their spelling, nor the variable of an option that is given.

What the parser gathers is followed by the settings that it holds. The command line puts its own
there first, and going through the variables only adds: a variable adds what it offers where its
option has no setting yet.
-/

namespace Liveness

namespace CommandLine

/-! ## Where a value comes from -/

/-- The text of the variable of an option. -/
def inherited? (env : Environment) (k : Key) : Option String := k.setting?.bind (valueOf? env)

/-- The variable of the option of a setting has its value. -/
def Offers (env : Environment) (x : Setting) : Prop :=
  ∃ s, inherited? env x.key = some s ∧ Denotes s x

/-- The configuration of a command when nothing is set. -/
def Command.standard (cores : UInt64) : Command → Config
  | .single => Config.single
  | .batch => Config.batch cores

end CommandLine

namespace CommandLine

variable {c : Command} {env env' : Environment} {cores : UInt64} {g : Given} {k : Key}
  {x : Setting} {xs : List Setting} {arguments : List String}

/-! ## The environment -/

namespace Given

end Given

/-! ## What is parsed -/

/-- What the command line gives and what the environment offers of the rest. -/
def Gathers (c : Command) (env : Environment) (xs : List Setting) (g : Given) : Prop :=
  ∀ x, g.Holds x ↔ x ∈ xs ∨ x.key ∈ c.valuedKeys ∧ (∀ y ∈ xs, y.key ≠ x.key) ∧ Offers env x

/-- Neither the order of the settings nor the variable of one that is given makes a difference. -/
theorem Gathers.eq {g' : Given} {xs' : List Setting} (h : Gathers c env xs g)
    (h' : Gathers c env' xs' g') (hperm : xs'.Perm xs)
    (hsame : ∀ k ∈ c.valuedKeys, (∀ x ∈ xs, x.key ≠ k) → inherited? env' k = inherited? env k) :
    g' = g := by
  refine Given.ext_holds fun x => ?_
  have hgiven : (∀ y ∈ xs', y.key ≠ x.key) ↔ ∀ y ∈ xs, y.key ≠ x.key :=
    forall_congr' fun y => imp_congr_left hperm.mem_iff
  rw [h' x, h x, hperm.mem_iff, hgiven]
  refine or_congr_right (and_congr_right fun hk => and_congr_right fun hnew => ?_)
  rw [Offers, Offers, hsame x.key hk hnew]

end CommandLine

end Liveness
