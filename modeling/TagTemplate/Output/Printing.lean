/-!
Programs that write text. A program learns of each write only whether it went through, and is free
to go on after one that did not. `output` and `result` run a program where every write goes
through; the sinks that refuse writes are in `Writer`.
-/
namespace TagTemplate

inductive Printing (α : Type) where
  | done (result : α)
  | write (text : String) (next : Bool → Printing α)

namespace Printing

variable {α β : Type}

def bind : Printing α → (α → Printing β) → Printing β
  | done a, f => f a
  | write text next, f => write text fun accepted => (next accepted).bind f

instance : Monad Printing where
  pure := done
  bind := bind

theorem bind_done (p : Printing α) : p.bind done = p := by
  induction p with
  | done a => rfl
  | write text next ih => simp only [bind, ih]

theorem bind_assoc {γ : Type} (p : Printing α) (f : α → Printing β) (g : β → Printing γ) :
    (p.bind f).bind g = p.bind fun a => (f a).bind g := by
  induction p with
  | done a => rfl
  | write text next ih => simp only [bind, ih]

instance : LawfulMonad Printing :=
  LawfulMonad.mk' Printing bind_done (fun _ _ => rfl) bind_assoc

def output : Printing α → String
  | done _ => ""
  | write text next => text ++ (next true).output

def result : Printing α → α
  | done a => a
  | write _ next => (next true).result

theorem output_bind (p : Printing α) (f : α → Printing β) :
    (p.bind f).output = p.output ++ (f p.result).output := by
  induction p with
  | done a => simp [bind, output, result]
  | write text next ih => simp [bind, output, result, ih, String.append_assoc]

theorem result_bind (p : Printing α) (f : α → Printing β) :
    (p.bind f).result = (f p.result).result := by
  induction p with
  | done a => rfl
  | write text next ih => exact ih true

end Printing

end TagTemplate
