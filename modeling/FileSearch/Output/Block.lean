import FileSearch.Output.Size
import FileSearch.Hit
import FileSearch.Text.Blank

/-!
# Hits for readers

Hits are shown as numbered blocks of three lines with an empty line between them.
-/

set_option autoImplicit false

namespace FileSearch.Output

def shownName (h : Hit) : String := if h.name.isEmpty then "-" else h.name

def hitLines (number : Nat) (h : Hit) : Except SizeError (List String) := do
  let size ← formatSize h.size
  .ok
    [s!"{number}. {shownName h}", s!"   Size: {size}  Sources: {h.sources}",
      s!"   Hash: {h.hash}", ""]

def blockLines (number : Nat) : List Hit → Except SizeError (List String)
  | [] => .ok []
  | h :: hits => do
    let lines ← hitLines number h
    let more ← blockLines (number + 1) hits
    .ok (lines ++ more)

def renderText (hits : List Hit) : Except SizeError String := do
  let lines ← blockLines 1 hits
  if lines.isEmpty then .ok "No results\n"
  else
    let block := Text.trimRight ("\n".intercalate lines).toList
    .ok (String.ofList block ++ "\n")

end FileSearch.Output
