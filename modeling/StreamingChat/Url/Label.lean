import StreamingChat.Url.Label.Alphabet
import StreamingChat.Url.Label.Joining
import StreamingChat.Url.Punycode

/-!
# Labels of domain names

A label with a certain mark in front is the writing of an international label in ASCII. It counts
only if it decodes to a text that could have been written so: composed, without a mark in front, of
characters that labels may hold, with joiners where they make a difference. If any label is written
from right to left, all labels must keep to one direction. Main function: `areValidLabels`.
-/

namespace StreamingChat.Url

namespace Label

/-- The mark of an encoded label. -/
def encodingMark : List Char := ['x', 'n', '-', '-']

/-- The greatest number of characters in an encoded label after its mark. -/
def maxEncoded : Nat := 2000

/-- Whether a text can be an international label. -/
def isInternational (text : List Char) : Bool :=
  text.all (fun character => character.toNat < 0x80 || isLabelCharacter character) &&
    isComposed text && !(text.head?.map isMark).getD false && hasGoodJoiners [] text

/-- The text of a label in lower case, which may be encoded. -/
def read (label : List Char) : Option (List Char) :=
  if encodingMark.isPrefixOf label then
    let encoded := label.drop encodingMark.length
    if label.getLast? = some '-' || maxEncoded < encoded.length then none
    else (Punycode.decode encoded).filter isInternational
  else some label

end Label

/-- Whether the labels of a domain name in lower case are valid. -/
def areValidLabels (labels : List (List Char)) : Bool :=
  match labels.mapM Label.read with
  | none => false
  | some texts =>
      let turns := texts.any fun text => text.any fun character =>
        (Label.Direction.of character).turns
      !turns || texts.all Label.Direction.isConsistent

end StreamingChat.Url
