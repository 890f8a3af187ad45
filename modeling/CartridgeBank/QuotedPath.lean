import CartridgeBank.Unicode.Extending
import CartridgeBank.Unicode.Invisible

namespace CartridgeBank

/-- A character of a quoted path: as it is, or escaped. All that would not show, or would run into
the character before it, is escaped by its code point. -/
def escapedInPath : Char → List Char
  | '"' => ['\\', '"']
  | '\\' => ['\\', '\\']
  | '\n' => ['\\', 'n']
  | '\r' => ['\\', 'r']
  | '\t' => ['\\', 't']
  | '\x00' => ['\\', '0']
  | c =>
    if Unicode.isInvisible c || Unicode.isExtending c then
      ['\\', 'u', '\x7b'] ++ Nat.toDigits 16 c.toNat ++ ['\x7d']
    else [c]

def quotedPath (path : String) : String :=
  String.ofList ('"' :: path.toList.flatMap escapedInPath ++ ['"'])

end CartridgeBank
