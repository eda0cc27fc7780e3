import WorldScripts.Text.CharSet.Hidden

/-!
Text between quotes, with escapes for whatever would end it, break the line or not be seen.
-/

namespace WorldScripts

def quotedChar (c : Char) : String :=
  match c with
  | '\x00' => "\\0"
  | '\t' => "\\t"
  | '\n' => "\\n"
  | '\r' => "\\r"
  | '"' => "\\\""
  | '\\' => "\\\\"
  | c =>
      if CharSet.hidden.contains c then
        "\\u\x7b" ++ String.ofList (Nat.toDigits 16 c.toNat) ++ "\x7d"
      else c.toString

def quotedText (text : String) : String :=
  (text.foldl (fun acc c => acc ++ quotedChar c) "\"").push '"'

end WorldScripts
