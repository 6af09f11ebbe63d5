import PolySurvey.Text.Emoji
import PolySurvey.Text.Ligature
import PolySurvey.Text.Width

/-!
# Terminal columns

How many columns of a terminal a line fills. Characters that are shown as one sign, such as an emoji
with its selector, skin tone and joined emoji, or two letters that make a ligature, are counted as that
sign; any other character is counted on its own.

A line is read from its right end to its left. The left end of what has been read is an `Edge`: it says
which sign the character before it may still join, and `Edge.before` is one step of the reading. A sign
that may still shrink is not counted yet; its columns are held by its `Joint`.
-/

namespace PolySurvey.Text

/-- The sign at the left end of a text that the character before it may join. -/
inductive Joint where
  /-- There is none. -/
  | none
  | skinTone
  | emoji
  /-- A joiner with an emoji after it. -/
  | joinedEmoji
  /-- A keycap before a joiner with an emoji after it. -/
  | joinedKeycap
  | flagLetter
  | flagLetters
  /-- A number of letters of flags before a joiner with an emoji after it. -/
  | joinedFlags (letters : Nat)
  /-- The end of the tags of a flag before a joiner with an emoji after it. -/
  | tagEnd
  /-- A number of tag letters at the end of the tags of such a flag. -/
  | tagLetters (n : Nat)
  /-- A number of tag digits in front of what else the tags of such a flag hold. -/
  | tagDigits (n : Nat)
  | kiratE
  | kiratAi
  | alef
  /-- A Hebrew lamed, perhaps after a joiner. -/
  | lamed (joined : Bool)
  /-- The Buginese letter ya, perhaps after a joiner. -/
  | ya (joined : Bool)
  /-- The Buginese vowel sign i before a joiner and ya. -/
  | vowelYa
  /-- A Tifinagh consonant, perhaps after a joiner. -/
  | tifinagh (joined : Bool)
  /-- The Tifinagh consonant joiner before a consonant. -/
  | tifinaghJoiner
  /-- A Lisu tone letter that may be the second of two. -/
  | toneLetter
  /-- The Old Turkic letter i, perhaps after a joiner. -/
  | orkhonI (joined : Bool)
  /-- A Khmer letter that may be a subscript. -/
  | khmer
deriving DecidableEq, Repr

namespace Joint

/-- The columns of a sign that are not counted until it is known that no character joins it. -/
def held : Joint → Nat
  | joinedFlags letters => if letters % 2 = 0 then letters - 2 else letters
  | tifinaghJoiner => 1
  | khmer => 1
  | _ => 0

/-- Whether a sign belongs to a script whose letters join; selectors do not keep such letters apart. -/
def isLetter : Joint → Bool
  | alef | lamed _ | ya _ | vowelYa | tifinagh _ | tifinaghJoiner | toneLetter | orkhonI _ | khmer => true
  | _ => false

/-- Whether a sign is joined to an emoji and may be joined by one in the style of a picture. -/
def isJoinedPicture : Joint → Bool
  | joinedEmoji | joinedKeycap => true
  | _ => false

/-- Whether a joiner, or a mark that is ignored, may stand before a sign without parting it from the
letter that joins it. -/
def isTransparent (j : Joint) : Bool := j.isLetter && j ≠ alef

/-- The sign with a joiner before it. -/
def withJoiner : Joint → Joint
  | lamed _ => lamed true
  | ya _ => ya true
  | tifinagh _ => tifinagh true
  | orkhonI _ => orkhonI true
  | j => j

/-- The columns counted for a character that starts a sign, and the sign. -/
def ofChar (c : Char) : Nat × Joint :=
  if khmerSubscripts.contains c then (0, khmer)
  else (charColumns c,
    if c = '\u05dc' then lamed false
    else if alefs.contains c then alef
    else if c = '\u1a10' then ya false
    else if tifinaghConsonants.contains c then tifinagh false
    else if c = '\ua4fc' || c = '\ua4fd' then toneLetter
    else if c.toNat = 0x10C03 then orkhonI false
    else if c.toNat = 0x16D67 then kiratE
    else if c.toNat = 0x16D68 then kiratAi
    else if Text.flagLetters.contains c then flagLetter
    else if skinTones.contains c then skinTone
    else if pictureEmoji.contains c then emoji
    else none)

/-- The columns counted when a character joins a sign, and the sign that they make; nothing if it does
not join. -/
def join? (c : Char) : Joint → Option (Nat × Joint)
  | none => .none
  | skinTone =>
    if skinEmoji.contains c then some (0, emoji)
    else if c = '\u200d' then some (0, joinedEmoji)
    else .none
  | emoji => if c = '\u200d' then some (0, joinedEmoji) else .none
  | joinedEmoji =>
    if c = '\u20e3' then some (0, joinedKeycap)
    else if Text.flagLetters.contains c then some (0, joinedFlags 1)
    else if skinTones.contains c then some (0, skinTone)
    else if c.toNat = 0xE007F then some (0, tagEnd)
    else if pictureEmoji.contains c then some (0, emoji)
    else .none
  | joinedKeycap => .none
  | flagLetter => if Text.flagLetters.contains c then some (1, flagLetters) else .none
  | flagLetters =>
    if Text.flagLetters.contains c then some (1, flagLetters)
    else if c = '\u200d' then some (0, joinedEmoji)
    else .none
  | joinedFlags n =>
    if Text.flagLetters.contains c then some (0, joinedFlags (n + 1))
    else if c = '\u200d' && 1 < n then some ((joinedFlags n).held, joinedEmoji)
    else .none
  | tagEnd =>
    if Text.tagLetters.contains c then some (0, tagLetters 1)
    else if Text.tagDigits.contains c then some (0, tagDigits 1)
    else .none
  | tagLetters n =>
    if Text.tagLetters.contains c && n < 6 then some (0, tagLetters (n + 1))
    else if Text.tagDigits.contains c && n < 5 then some (0, tagDigits 1)
    else if c.toNat = 0x1F3F4 && 2 < n then some (0, emoji)
    else .none
  | tagDigits n =>
    if Text.tagDigits.contains c && n < 3 then some (0, tagDigits (n + 1))
    else if c.toNat = 0x1F3F4 && n = 3 then some (0, emoji)
    else .none
  | kiratE =>
    if c.toNat = 0x16D63 || c.toNat = 0x16D69 then some (0, none)
    else if c.toNat = 0x16D67 then some (0, kiratAi)
    else if c.toNat = 0x16D68 then some (1, kiratE)
    else .none
  | kiratAi => if c.toNat = 0x16D63 then some (0, none) else .none
  | alef =>
    if lams.contains c then some (0, none)
    else if zeroWidth.contains c && !joiningBarriers.contains c then some (0, alef)
    else .none
  | lamed joined => if joined && c = '\u05d0' then some (0, none) else .none
  | ya joined => if joined && c = '\u1a17' then some (0, vowelYa) else .none
  | vowelYa => if c = '\u1a15' then some (0, none) else .none
  | tifinagh joined =>
    if c = '\u2d7f' then some (0, tifinaghJoiner)
    else if joined && tifinaghConsonants.contains c then some (0, none)
    else .none
  | tifinaghJoiner => if tifinaghConsonants.contains c then some (0, none) else .none
  | toneLetter => if '\ua4f8' ≤ c && c ≤ '\ua4fb' then some (0, none) else .none
  | orkhonI joined => if joined && c.toNat = 0x10C32 then some (0, none) else .none
  | khmer => if c = '\u17d2' then some (0, none) else .none

end Joint

/-- The left end of a text: the sign that may be joined, and what selectors ask of the character before
it. -/
structure Edge where
  joint : Joint := .none
  /-- A selector asks for a picture. -/
  picture : Bool := false
  /-- A selector asks for a text. -/
  text : Bool := false
  /-- A selector asks for a wide quotation mark. -/
  wide : Bool := false
deriving DecidableEq, Repr

namespace Edge

/-- The edge before a selector. A sign that the selector parts from what is before it is counted. -/
def select (e : Edge) (keeps : Bool) (ask : Edge → Edge) : Nat × Edge :=
  if keeps then (0, ask e) else (e.joint.held, ask {})

/-- The edge where no picture is asked for, or none can be had. -/
def withoutPicture (e : Edge) : Edge :=
  if e.picture then { e with joint := if e.joint.isLetter then e.joint else .none, picture := false }
  else e

/-- Whether a character is a quotation mark that has a wide form. -/
def isQuote (c : Char) : Bool := c = '\u2018' || c = '\u2019' || c = '\u201c' || c = '\u201d'

/-- The columns counted for a character that no selector asks anything of, and the edge before it. -/
def beforeSign (c : Char) (e : Edge) : Nat × Edge :=
  if e.joint.isTransparent && c = '\u200d' then (0, { e with joint := e.joint.withJoiner })
  else if e.joint.isTransparent && ignorableMarks.contains c then (0, e)
  else
    match e.joint.join? c with
    | some (n, joint) => (n, { joint })
    | none => (e.joint.held + (Joint.ofChar c).1, { joint := (Joint.ofChar c).2 })

/-- The columns counted for a character before an edge, and the edge before that character. -/
def before (c : Char) (e : Edge) : Nat × Edge :=
  if e.picture && takesPictureStyle c then
    (e.joint.held + if e.joint.isJoinedPicture then 0 else 2, { joint := .emoji })
  else
    let e := e.withoutPicture
    if c.toNat ≤ 0xA0 then (e.joint.held + 1, {})
    else if c = '\ufe0f' then
      e.select (e.joint.isLetter || e.joint.isJoinedPicture) fun e => { e with picture := true }
    else if c = '\ufe0e' then e.select e.joint.isLetter fun e => { e with text := true }
    else if e.text && takesTextStyle c then (e.joint.held + 1, {})
    else if c = '\ufe01' then
      e.select e.joint.isLetter fun e => { e with text := false, wide := true }
    else if e.wide && isQuote c then (e.joint.held + 2, {})
    else beforeSign c { joint := e.joint }

end Edge

/-- The columns counted for a text, and its left edge. -/
def measure : List Char → Nat × Edge
  | [] => (0, {})
  | c :: cs =>
    let (counted, e) := measure cs
    let (more, e) := e.before c
    (counted + more, e)

/-- The columns that a line fills. -/
def columns (line : List Char) : Nat :=
  (measure line).1 + (measure line).2.joint.held

end PolySurvey.Text
