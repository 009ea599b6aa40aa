/-!
# Names, paths and arguments

What the system calls things by are lists of bytes: the names of files, paths, the targets of links,
the arguments of a program. Most of them are the UTF-8 of a text, and a text stands for its bytes
wherever one is asked for. None has to be, though. What is to be shown of bytes that are no text has
replacement characters in it, and where a text must be had there is none.
-/

namespace IconSubset

/-- A name, a path or an argument: any bytes. -/
@[ext]
structure ByteString where
  /-- The bytes. -/
  bytes : List UInt8
deriving DecidableEq, Repr, Inhabited

namespace ByteString

/-- The bytes of a text in UTF-8. -/
def ofString (s : String) : ByteString := ⟨s.toList.flatMap String.utf8EncodeChar⟩

instance : Coe String ByteString := ⟨ofString⟩

instance : Append ByteString := ⟨fun a b => ⟨a.bytes ++ b.bytes⟩⟩

/-- The text that the bytes are in UTF-8, if they are one. -/
def text? (s : ByteString) : Option String := String.fromUTF8? s.bytes.toByteArray

/-- Whether a byte goes on with a character. -/
def isTail (b : UInt8) : Bool := 0x80 ≤ b && b ≤ 0xbf

/-- Whether a byte can be the second of a character of three or four bytes with that first byte. -/
def isSecond (first b : UInt8) : Bool :=
  if first = 0xe0 then 0xa0 ≤ b && b ≤ 0xbf
  else if first = 0xed then 0x80 ≤ b && b ≤ 0x9f
  else if first = 0xf0 then 0x90 ≤ b && b ≤ 0xbf
  else if first = 0xf4 then 0x80 ≤ b && b ≤ 0x8f
  else 0xe1 ≤ first && first ≤ 0xf3 && isTail b

/-- How many bytes behind the first of a broken character still belong to it. -/
def brokenLength (first : UInt8) : List UInt8 → Nat
  | second :: third :: _ =>
    if isSecond first second then (if 0xf0 ≤ first && isTail third then 2 else 1) else 0
  | [second] => if isSecond first second then 1 else 0
  | [] => 0

/-- The characters of some bytes, with a replacement character for each broken one. `fuel` bounds
the number of bytes. -/
def repairedWithin : (fuel : Nat) → List UInt8 → List Char
  | 0, _ => []
  | _, [] => []
  | fuel + 1, b :: bs =>
    match ((b :: bs).take 4).toByteArray.utf8DecodeChar? 0 with
    | some c => c :: repairedWithin fuel ((b :: bs).drop c.utf8Size)
    | none => '\uFFFD' :: repairedWithin fuel (bs.drop (brokenLength b bs))

/-- What is shown of the bytes. -/
def shown (s : ByteString) : String :=
  match s.text? with
  | some text => text
  | none => String.ofList (repairedWithin s.bytes.length s.bytes)

end ByteString

/-- What the user is told of a path that is no text where a text must be had. -/
def pathNotTextWords : String := "path contains invalid UTF-8 characters"

end IconSubset
