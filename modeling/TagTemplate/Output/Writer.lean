import TagTemplate.Output.Printing

/-!
Writers and the adapter in front of them. A writer is called with bytes and takes some of them or
fails; what it answers may depend on all the calls before, also on those behind a failure. A text is
written by calls until each of its bytes is taken or a call fails. The adapter keeps the first
failure, and after it nothing more is written: every later text is refused without a call.
-/
namespace TagTemplate

inductive WriteFailure where
  | brokenPipe
  | diskFull
  /-- The writer took none of the bytes it was given. -/
  | nothingTaken
  | entityNotFound
  deriving DecidableEq, Repr

def WriteFailure.message : WriteFailure → String
  | brokenPipe => "broken pipe"
  | diskFull => "disk full"
  | nothingTaken => "failed to write whole buffer"
  | entityNotFound => "entity not found"

inductive Reply where
  | took (count : Nat)
  | failed (failure : WriteFailure)
  deriving DecidableEq, Repr

/-- A call of a writer. One that is interrupted is made again and is no call of its own. -/
structure Call where
  given : List UInt8
  reply : Reply
  deriving DecidableEq, Repr

namespace Call

def taken (c : Call) : List UInt8 :=
  match c.reply with
  | .took count => c.given.take count
  | .failed _ => []

/-- A call that takes nothing fails too. -/
def failure? (c : Call) : Option WriteFailure :=
  match c.reply with
  | .took 0 => some .nothingTaken
  | .took (_ + 1) => none
  | .failed failure => some failure

end Call

def takenBy (calls : List Call) : List UInt8 := calls.flatMap Call.taken

structure Writer where
  /-- The reply to a call with these bytes behind the calls before. -/
  answer : (before : List Call) → (given : List UInt8) → Reply
  /-- All calls made, the first one first. -/
  calls : List Call := []

def bytes (text : String) : List UInt8 := text.toUTF8.data.toList

namespace Writer

def unlimited : Writer where
  answer _ given := .took given.length

/-- Takes so many bytes, the last of them maybe as a part of what it is given. -/
def limited (room : Nat) (refusal : Reply) : Writer where
  answer before given :=
    match room - (takenBy before).length with
    | 0 => refusal
    | left + 1 => .took (min (left + 1) given.length)

def written (w : Writer) : List UInt8 := takenBy w.calls

def call (w : Writer) (given : List UInt8) : Call × Writer :=
  let made : Call := ⟨given, w.answer w.calls given⟩
  (made, { w with calls := w.calls ++ [made] })

/-- Writes bytes the first `covered` of which are taken already. -/
def writeFrom : (covered : Nat) → List UInt8 → Writer → Option WriteFailure × Writer
  | _, [], w => (none, w)
  | covered + 1, _ :: rest, w => writeFrom covered rest w
  | 0, byte :: rest, w =>
    let (made, w) := w.call (byte :: rest)
    match made.failure? with
    | some failure => (some failure, w)
    | none => writeFrom (made.taken.length - 1) rest w

def writeAll (w : Writer) (given : List UInt8) : Option WriteFailure × Writer :=
  writeFrom 0 given w

end Writer

structure Adapter where
  writer : Writer
  broken : Option WriteFailure := none

namespace Adapter

/-- Whether the text goes through, and the adapter after it. -/
def write (a : Adapter) (text : String) : Bool × Adapter :=
  match a.broken with
  | some _ => (false, a)
  | none =>
    match a.writer.writeAll (bytes text) with
    | (none, w) => (true, { a with writer := w })
    | (some failure, w) => (false, ⟨w, some failure⟩)

end Adapter

def Printing.runOn {α : Type} : Printing α → Adapter → α × Adapter
  | .done result, a => (result, a)
  | .write text next, a =>
    let (accepted, a) := a.write text
    (next accepted).runOn a

end TagTemplate
