import Mathlib.Logic.Function.Basic
import PolicyProvider.Proofs.Member.Run
import PolicyProvider.Proofs.Occurrence
/-!
# Interleaving — programs that run at the same time

Programs that share a collection take turns: each turn makes the next call of one of them.  A list of turns says whose,
and every way in which their calls can follow each other is such a list.
-/
namespace PolicyProvider
namespace Program

variable {K : MemberKind} {α σ ι : Type} [DecidableEq ι] {server : CollectionServer K σ}

/-- **Programs that take turns**: what is left of them, and the state of the collection.  A turn of a finished program
is passed. -/
def interleave (server : CollectionServer K σ) : List ι → (ι → Program K α) → σ → (ι → Program K α) × σ
  | [], ps, st => (ps, st)
  | i :: turns, ps, st =>
    let r := (ps i).step server st
    interleave server turns (Function.update ps i r.1) r.2

theorem interleave_append (turns more : List ι) (ps : ι → Program K α) (st : σ) :
    interleave server (turns ++ more) ps st =
      interleave server more (interleave server turns ps st).1 (interleave server turns ps st).2 := by
  induction turns generalizing ps st with
  | nil => rfl
  | cons i turns ih => exact ih _ _

theorem interleave_concat (turns : List ι) (i : ι) (ps : ι → Program K α) (st : σ) :
    interleave server (turns ++ [i]) ps st =
      (Function.update (interleave server turns ps st).1 i
        (((interleave server turns ps st).1 i).step server (interleave server turns ps st).2).1,
        (((interleave server turns ps st).1 i).step server (interleave server turns ps st).2).2) := by
  rw [interleave_append]
  rfl

theorem run_succ (calls : Nat) (p : Program K α) (st : σ) :
    p.run server (calls + 1) st = (p.run server calls st).1.step server (p.run server calls st).2 := by
  rw [run_add]
  rfl

/-! ## First turns

`List.eraseDups` keeps the first turn of each program, so it lists the programs in the order in which they began. -/

export Occurrence (eraseDups_concat_of_mem eraseDups_concat_of_not_mem nodup_eraseDups)

end Program
end PolicyProvider
