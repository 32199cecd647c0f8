import RelayGateway.Text.CharSet

/-! # Characters and the forms they stand for

A table that gives some characters another form, a text of any length. It is kept as runs of
consecutive characters. Written as text, a run is its first code point, an equals sign and the forms;
a form is a list of code points with plus signs between them, as in `2460=31 32 33` or `bd=31+2044+32`.
-/
namespace RelayGateway.Text

structure FormRun where
  first : Nat
  forms : List (List Char)

abbrev FormTable := List FormRun

namespace FormTable

def form? (t : FormTable) (c : Char) : Option (List Char) :=
  t.findSome? fun run => if run.first ≤ c.toNat then run.forms[c.toNat - run.first]? else none

def charIn? (form : List Char) (run : FormRun) : Option Char :=
  let i := run.forms.idxOf form
  if i < run.forms.length then some (Char.ofNat (run.first + i)) else none

def char? (t : FormTable) (form : List Char) : Option Char := t.findSome? (charIn? form)

def formOf (cs : List Char) : List Char :=
  (words (· = '+') cs).map fun digits => Char.ofNat (codePoint digits)

/-- Adds one word of the text: a form of the last run, or the beginning of a new run. -/
def addWord (runs : List FormRun) (cs : List Char) : List FormRun :=
  match cs.dropWhile (· ≠ '='), runs with
  | _ :: form, _ => ⟨codePoint (cs.takeWhile (· ≠ '=')), [formOf form]⟩ :: runs
  | [], run :: runs => ⟨run.first, formOf cs :: run.forms⟩ :: runs
  | [], [] => []

def ofText (text : String) : FormTable :=
  let runs := (words (fun c => c = ' ' || c = '\n') text.toList).foldl addWord []
  (runs.map fun run => ⟨run.first, run.forms.reverse⟩).reverse

end FormTable
end RelayGateway.Text
