/-
Go strings and the operations of the standard `strings` package used here.

A Go string is a sequence of bytes that need not be valid UTF-8: an HTTP header
value reaches the program as raw bytes.  Every function below therefore works
on bytes, and a literal of the source stands for its UTF-8 encoding.
-/

import Mathlib.Data.List.Basic

namespace NamespaceLister.Library

abbrev GoString := List UInt8

namespace GoString

def ofLiteral (text : String) : GoString :=
  text.toList.flatMap String.utf8EncodeChar

instance : Coe String GoString := ⟨ofLiteral⟩

def hasPrefix (text start : GoString) : Bool :=
  start.isPrefixOf text

/-- `strings.Split` at a separator of one byte. -/
def split (text : GoString) (separator : UInt8) : List GoString :=
  text.splitOn separator

/-- `strings.TrimLeft` with a cutset of one byte. -/
def trimLeft (text : GoString) (cut : UInt8) : GoString :=
  text.dropWhile (· == cut)

theorem hasPrefix_iff (text start : GoString) :
    hasPrefix text start = true ↔ ∃ rest, text = start ++ rest := by
  unfold hasPrefix
  rw [List.isPrefixOf_iff_prefix]
  constructor
  · rintro ⟨rest, same⟩
    exact ⟨rest, same.symm⟩
  · rintro ⟨rest, same⟩
    exact ⟨rest, same.symm⟩

theorem split_segment (segment rest : GoString) (separator : UInt8)
    (absent : separator ∉ segment) :
    split (segment ++ separator :: rest) separator =
      segment :: split rest separator :=
  List.splitOn_append_cons_self_of_not_mem absent rest

theorem split_append (first second : GoString) (separator : UInt8) :
    split (first ++ separator :: second) separator =
      split first separator ++ split second separator :=
  List.splitOn_append_cons_self first second

theorem split_ne_nil (text : GoString) (separator : UInt8) : split text separator ≠ [] :=
  List.splitOn_ne_nil separator text

theorem split_single (segment : GoString) (separator : UInt8)
    (absent : separator ∉ segment) :
    split segment separator = [segment] :=
  List.splitOn_eq_singleton absent

theorem join_split (text : GoString) (separator : UInt8) :
    [separator].intercalate (split text separator) = text :=
  List.intercalate_splitOn separator

theorem compare_lt_iff (left right : GoString) : compare left right = .lt ↔ left < right := by
  induction left generalizing right with
  | nil =>
      cases right with
      | nil => exact iff_of_false (by decide) (List.not_lt_nil [])
      | cons second others => exact iff_of_true rfl (List.nil_lt_cons second others)
  | cons first rest ih =>
      cases right with
      | nil => exact iff_of_false (by nofun) (List.not_lt_nil _)
      | cons second others =>
          rw [List.compare_cons_cons, Ordering.then_eq_lt, ih, List.cons_lt_cons_iff,
            Std.compare_eq_lt, Std.compare_eq_iff_eq]

private def lowerByte (byte : UInt8) : UInt8 :=
  if 65 ≤ byte ∧ byte ≤ 90 then byte + 32 else byte

/-- `strings.ToLower`.  A text of ASCII bytes is lowered byte by byte; any
other text goes through the Unicode tables, which `unicode` stands for. -/
def toLower (unicode : GoString → GoString) (text : GoString) : GoString :=
  if text.all (· < 128) then text.map lowerByte else unicode text

end GoString
end NamespaceLister.Library
