import FrameGrabber.Letter.Extending
import FrameGrabber.Letter.Unprintable

/-!
# Quoted texts

A message shows a text between double quotes in such a way that it can be told
apart from any other: what leaves no mark, and what would run into the letter
before it, is written as its code point.
-/

namespace FrameGrabber.Letter

def codePoint (c : Char) : List Char :=
  ['\\', 'u', '\x7b'] ++ Nat.toDigits 16 c.toNat ++ ['\x7d']

def escape (c : Char) : List Char :=
  if c = '"' || c = '\\' then ['\\', c]
  else if c = '\n' then ['\\', 'n']
  else if c = '\r' then ['\\', 'r']
  else if c = '\t' then ['\\', 't']
  else if c = '\x00' then ['\\', '0']
  else if isExtending c || isUnprintable c then codePoint c
  else [c]

def quoted (s : String) : String := "\"" ++ String.ofList (s.toList.flatMap escape) ++ "\""

end FrameGrabber.Letter
