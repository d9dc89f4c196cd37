import OpaqueC.Fragment.Writer
import OpaqueC.IncludeSet

/-!
# Drafts

A draft is one file in the making: the headers it includes and the text written so far.

## Main definitions

* `Draft`: an include set and a writer;
* `Draft.start`: a new file;
* `Draft.write`: more fragments.
-/

namespace OpaqueC

/-- One file in the making. -/
structure Draft where
  /-- The headers included so far. -/
  includes : IncludeSet := {}
  /-- The text written so far. -/
  writer : Writer := {}
  deriving DecidableEq, Repr

namespace Draft

/-- A new file that may include at most the given number of headers. -/
def start (limit? : Option Nat) : Draft :=
  { includes := .empty limit? }

/-- The text written so far. -/
def text (d : Draft) : String :=
  d.writer.text

/-- Append fragments. -/
def write (d : Draft) (fragments : List Fragment) : Draft :=
  { d with writer := d.writer.putAll fragments }

/-- Begin the includes of a file: forget the headers recorded so far. -/
def resetIncludes (d : Draft) : Draft :=
  { d with includes := d.includes.reset }

@[simp] theorem includes_write (d : Draft) (fragments : List Fragment) :
    (d.write fragments).includes = d.includes := rfl

@[simp] theorem writer_write (d : Draft) (fragments : List Fragment) :
    (d.write fragments).writer = d.writer.putAll fragments := rfl

@[simp] theorem writer_resetIncludes (d : Draft) : d.resetIncludes.writer = d.writer := rfl

@[simp] theorem includes_resetIncludes (d : Draft) :
    d.resetIncludes.includes = d.includes.reset := rfl

end Draft

end OpaqueC
