import FileSearch.Yaml.Node.Grammar
import FileSearch.Yaml.Value.Build

/-!
# Reading settings texts

A text is cut into tokens, the tokens are read as a tree of nodes, and the tree is
turned into a value. A text without a document holds null.
-/

set_option autoImplicit false

namespace FileSearch.Yaml

def isAllowed (c : Char) : Bool :=
  c = '\t' || c = '\n' || c = '\r' || c = '\u0085' ||
    (0x20 ≤ c.toNat && c.toNat ≤ 0x7E) ||
    (0xA0 ≤ c.toNat && c.toNat ≤ 0xFFFD) || 0x10000 ≤ c.toNat

def read (text : String) : Except Fault Value :=
  let chars := text.toList
  if !chars.all isAllowed then .error (.malformed .notPrintable)
  else
    let (tokens, fault) := Token.scan chars
    match Node.ofTokens tokens with
    | .error (.malformed cause) => .error (.malformed cause)
    | .error .exhausted => .error (fault.getD (.malformed .unexpectedToken))
    | .ok none => .ok .null
    | .ok (some root) => Value.ofTree root

end FileSearch.Yaml
