/-! Rules for short texts: columns, dotted paths, joined lists and texts that end at a null
character. Widths count the bytes of the UTF-8 form. -/
namespace Flotation.Text

/-- Put blanks in front until the text has the given width; a longer text is not cut. A width
of zero or less asks for nothing. -/
def padLeft (width : Int) (text : String) : String :=
  String.ofList (List.replicate (width.toNat - text.utf8ByteSize) ' ') ++ text

/-- A name inside an owner, with a point between them; the name alone without an owner. -/
def dotted (owner name : String) : String :=
  if owner.isEmpty then name else owner ++ "." ++ name

/-- Join with semicolons. A separator is written only once some text stands before it, so
empty texts at the front leave no trace. -/
def joined (texts : List String) : String :=
  texts.foldl (fun done text => if done.isEmpty then text else done ++ "; " ++ text) ""

/-- The part of a text before its first null character; the whole text if there is none. -/
def beforeNull (text : String) : String :=
  String.ofList (text.toList.takeWhile (· ≠ '\x00'))

@[simp] theorem toList_beforeNull (text : String) :
    (beforeNull text).toList = text.toList.takeWhile (· ≠ '\x00') := String.toList_ofList

theorem beforeNull_of_notMem {text : String} (h : '\x00' ∉ text.toList) :
    beforeNull text = text := by
  have kept : text.toList.takeWhile (· ≠ '\x00') = text.toList := by
    rw [← List.append_nil text.toList, List.takeWhile_append_of_pos]
    · rw [List.takeWhile_nil]
    · intro c hc
      exact decide_eq_true fun isNull => h (isNull ▸ hc)
  rw [beforeNull, kept, String.ofList_toList]

end Flotation.Text
