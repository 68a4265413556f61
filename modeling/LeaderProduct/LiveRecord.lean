import LeaderProduct.CounterpartyCard

/-! Records of 1C as the live lists read them: by the first of some names that a record has. -/
namespace LeaderProduct
namespace OnecLive

def read (source : Option RecordValue) (keys : List String) : Option Json :=
  source.bind fun entries => keys.findSome? (entries.lookup ·)

section Text
variable (js : JsConversions)

def text (source : Option RecordValue) (keys : List String) (fallback : Option String) :
    Option String :=
  match read source keys with
  | none | some .null => fallback
  | some value =>
    let prepared := JsString.trim (match value with
      | .string text => text
      | other => js.stringOf other)
    if prepared = "" then fallback else some prepared

def numberValue (source : Option RecordValue) (keys : List String) (fallback : Option Rat) :
    Option Rat :=
  match read source keys with
  | some (.number n) => some n
  | some (.string text) =>
    (js.numberOf (String.ofList (firstCommaToDot (JsString.removeSpaces text).toList))).or fallback
  | _ => fallback

def entityGuid (source : Option RecordValue) (keys : List String) : Option String :=
  text js source keys none

theorem text_ne {source : Option RecordValue} {keys : List String} {t : String}
    (found : text js source keys none = some t) : t ≠ "" := by
  unfold text at found
  split at found
  · cases found
  · cases found
  · dsimp only at found
    split_ifs at found with empty
    rw [← Option.some.inj found]
    exact empty

end Text

def bool (source : Option RecordValue) (keys : List String) (fallback : Bool) : Bool :=
  match read source keys with
  | some (.bool value) => value
  | some (.number n) => decide (n ≠ 0)
  | some (.string text) =>
    let normalized := JsString.toLowerCase (JsString.trim text)
    if ["1", "true", "yes", "y", "on", "истина"].contains normalized then true
    else if ["0", "false", "no", "n", "off", "ложь"].contains normalized then false
    else fallback
  | _ => fallback

def isEntityActive (source : Option RecordValue) : Bool :=
  let deletionMark := bool source ["deletionMark", "DeletionMark", "ПометкаУдаления"] false
  !deletionMark && bool source ["isActive", "active"] true

namespace Sample

def ofTexts : JsConversions := .ofTexts

end Sample

end OnecLive
end LeaderProduct
