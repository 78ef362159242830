import Mathlib.Data.List.Basic

set_option autoImplicit false

/-! Texts that hold values under `{:?}`. -/

namespace DebugText

/-- A part of a message: a text, or a value under `{:?}`. -/
inductive Piece where
  | text (s : String)
  | debugStr (s : String)
  | debugChar (c : Char)
deriving DecidableEq

abbrev Message := List Piece

instance : Coe String Message := ⟨fun s => [.text s]⟩

def debugStr (s : String) : Message := [.debugStr s]

def debugChar (c : Char) : Message := [.debugChar c]

section Render

-- The characters outside ASCII that the Unicode tables of the standard library call printable
-- and not grapheme extending.
variable (printable : Char → Bool)

/-- The characters that stand for `c` between the quotation marks `quote`. -/
def escape (quote c : Char) : List Char :=
  if c = '\x00' then ['\\', '0']
  else if c = '\t' then ['\\', 't']
  else if c = '\r' then ['\\', 'r']
  else if c = '\n' then ['\\', 'n']
  else if c = '\\' ∨ c = quote then ['\\', c]
  else if (if c.toNat < 0x80 then 0x20 ≤ c.toNat ∧ c.toNat ≠ 0x7F else printable c) then [c]
  else '\\' :: 'u' :: '\x7b' :: Nat.toDigits 16 c.toNat ++ ['\x7d']

def Piece.render : Piece → String
  | .text s => s
  | .debugStr s => String.ofList ('"' :: s.toList.flatMap (escape printable '"') ++ ['"'])
  | .debugChar c => String.ofList ('\'' :: escape printable '\'' c ++ ['\''])

/-- The text of the message. -/
def Message.render (message : Message) : String := String.join (message.map (·.render printable))

@[simp] theorem render_nil : Message.render printable [] = "" := rfl

@[simp] theorem render_text_cons (text : String) (rest : Message) :
    Message.render printable (.text text :: rest) = text ++ rest.render printable := by
  simp [Message.render, Piece.render]

end Render

example : Message.render (fun _ => false) ("whitespace in " ++ debugStr "a\t\"\u200b\x01") =
    "whitespace in \"a\\t\\\"\\u\x7b200b\x7d\\u\x7b1\x7d\"" := by
  decide +kernel

end DebugText
