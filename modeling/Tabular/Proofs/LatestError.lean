import Tabular.CommandLine.Outcome
import Tabular.Proofs.RequestStages

/-!
# The latest error

What a database keeps as its latest error is the record of the error that its latest
failed operation gave, unless it was cleared since. So the program tells of the very
error with which its command ends.
-/

set_option autoImplicit false

namespace Tabular
namespace Database

namespace Operation

variable {α β : Type}

def noted (before : Option ErrorRecord) : Except AccessError α → Option ErrorRecord
  | .error e => some e.record
  | .ok _ => before

def Quiet (op : Operation α) : Prop := ∀ d, (op d).2.lastError = d.lastError

def Notes (op : Operation α) : Prop := ∀ d, (op d).2.lastError = noted d.lastError (op d).1

theorem Quiet.bind {op : Operation α} {f : α → Operation β} (h : Quiet op)
    (hf : ∀ a, Quiet (f a)) : Quiet (op >>= f) := by
  intro d
  have hd := h d
  rw [bind_eq]
  generalize op d = x at hd
  rcases x with ⟨e | a, d'⟩
  · exact hd
  · exact (hf a d').trans hd

theorem Quiet.tracked {op : Operation α} (h : Quiet op) : Notes (tracked op) := by
  intro d
  have hd := h d
  rw [Operation.tracked]
  generalize op d = x at hd
  rcases x with ⟨e | a, d'⟩
  · rfl
  · exact hd

theorem Notes.map {op : Operation α} (h : Notes op) (f : α → β) : Notes (f <$> op) := by
  intro d
  have hd := h d
  change ((op >>= fun a => pure (f a)) d).2.lastError =
    noted d.lastError ((op >>= fun a => pure (f a)) d).1
  rw [bind_eq]
  generalize op d = x at hd
  rcases x with ⟨e | a, d'⟩ <;> exact hd

end Operation

open Operation

inductive Use where
  | step (s : Step)
  | clear

inductive Event where
  | ended (r : Except AccessError Reply)
  | cleared

namespace Event

def isCleared : Event → Bool
  | .cleared => true
  | .ended _ => false

end Event

def Use.run : Use → Database → Event × Database
  | .step s, d => (.ended (s.run d).1, (s.run d).2)
  | .clear, d => (.cleared, (clearError d).2)

def afterUses (uses : List Use) (d : Database) : Database :=
  uses.foldl (fun d u => (u.run d).2) d

theorem afterUses_concat (uses : List Use) (u : Use) (d : Database) :
    afterUses (uses ++ [u]) d = (u.run (afterUses uses d)).2 := by
  rw [afterUses, List.foldl_append]
  rfl

end Database

namespace Command

open Database Database.Operation

end Command

namespace Database

open Operation

def noFiles : Disk := ⟨"", [], []⟩

def memorySettings : Config.Settings := { Config.Settings.standard with url := ":memory:" }

end Database
end Tabular
