import Screenwright.Text.EmojiName
import Screenwright.Text.LetterCase

/-! Pictures written as names between colons. -/
namespace Screenwright.Text

/-- How a picture is shown: as its font has it, or as the name asks. -/
inductive EmojiVariant where
  | unspecified
  | picture
  | plain
  deriving DecidableEq, Repr

/-- What follows a picture of a variant. -/
def EmojiVariant.selector : EmojiVariant → List Char
  | unspecified => []
  | picture => ['\ufe0f']
  | plain => ['\ufe0e']

/-- A text without an ending, if it has it. -/
def withoutEnding? (ending : String) (cs : List Char) : Option (List Char) :=
  if ending.toList.isSuffixOf cs then some (cs.take (cs.length - ending.length)) else none

/-- The name and the variant that stand between two colons. -/
def emojiCode (cs : List Char) : List Char × EmojiVariant :=
  match withoutEnding? "-emoji" cs, withoutEnding? "-text" cs with
  | some name, _ => (name, .picture)
  | none, some name => (name, .plain)
  | none, none => (cs, .unspecified)

/-- The picture of what stands between two colons, if it is the name of one. -/
def emojiOf? (cs : List Char) : Option (List Char) :=
  let (name, variant) := emojiCode cs
  (emoji? (lower (String.ofList name))).map fun picture => picture.toList ++ variant.selector

/-- A text with pictures for their names. Colons around what is no name stay, and a colon belongs to
one name only; `skip` characters belong to a name that was found. -/
def replaceEmoji : Nat → List Char → List Char
  | _, [] => []
  | skip + 1, _ :: rest => replaceEmoji skip rest
  | 0, c :: rest =>
    if c = ':' then
      let code := rest.takeWhile fun c => c != ':' && !isBlank c
      if (rest.drop code.length).head? = some ':' then
        (emojiOf? code).getD (':' :: code ++ [':']) ++ replaceEmoji (code.length + 1) rest
      else c :: replaceEmoji 0 rest
    else c :: replaceEmoji 0 rest

end Screenwright.Text
