import ScriptGate.Pattern.Basic

/-! # Matching patterns

A pattern is matched at a place of a text: the character before the place is known, since anchors
look at it, and the text after the place is read. The rest of a match is a function of the place
where its first part ends, so every way to match that part is tried, in the order of preference,
until the rest follows. -/

namespace ScriptGate

/-- A place in a text. -/
structure Place where
  /-- The character before the place, if the text does not start there. -/
  before : Option Char
  /-- The text after the place. -/
  after : List Char
  /-- The number of characters after the place. -/
  left : Nat
  /-- The number of characters is counted. -/
  left_eq : left = after.length
deriving DecidableEq

namespace Place

/-- The place before a text that follows a given character, if any. -/
def between (before : Option Char) (after : List Char) : Place := ⟨before, after, after.length, rfl⟩

/-- The character after a place, and the place after that character. -/
def step? (place : Place) : Option (Char × Place) :=
  match following : place.after with
  | [] => none
  | char :: after =>
    some (char, ⟨some char, after, place.left - 1, by simp [place.left_eq, following]⟩)

/-- Whether a text or, for the multiline flag, a line starts at a place. -/
def startsLine (flags : PatternFlags) (place : Place) : Bool :=
  place.before.isNone || (flags.multiline && place.before == some '\n')

/-- Whether the text or its last line ends at a place, or, for the multiline flag, any line. -/
def endsLine (flags : PatternFlags) (place : Place) : Bool :=
  place.after.isEmpty || place.after == ['\n'] ||
    (flags.multiline && place.after.head? == some '\n')

/-- Whether exactly one of the characters around a place is a word character. -/
def isBoundary (place : Place) : Bool :=
  place.before.any Text.isWord != place.after.head?.any Text.isWord

end Place

namespace Pattern

/-- Further rounds of a step, as many as the fuel and the greatest number allow, and then the rest.
A round that matches no characters is the last one. The fuel bounds the rounds that move on, so
the number of characters left is enough. -/
def moreRounds (step : Place → (Place → Option Place) → Option Place) (manner : Manner) :
    (fuel : Nat) → (most : Option Nat) → Place → (Place → Option Place) → Option Place
  | 0, _, place, rest => rest place
  | fuel + 1, most, place, rest =>
    let goOn (next : Place) : Option Place :=
      if next.left < place.left then
        moreRounds step manner fuel (most.map (· - 1)) next rest
      else rest next
    if most = some 0 then rest place
    else
      match manner with
      | .greedy =>
        match step place goOn with
        | some last => some last
        | none => rest place
      | .lazy =>
        match rest place with
        | some last => some last
        | none => step place goOn
      | .possessive =>
        match step place some with
        | some next => goOn next
        | none => rest place

/-- The rounds of a repetition, the required ones first, and then the rest. -/
def allRounds (step : Place → (Place → Option Place) → Option Place) (manner : Manner) :
    (least : Nat) → (most : Option Nat) → Place → (Place → Option Place) → Option Place
  | 0, most, place, rest => moreRounds step manner place.left most place rest
  | least + 1, most, place, rest =>
    let goOn (next : Place) : Option Place :=
      allRounds step manner least (most.map (· - 1)) next rest
    match manner with
    | .greedy | .lazy => step place goOn
    | .possessive => (step place some).bind goOn

/-- The place where the rest ends, when the pattern matches from a place on and the rest follows.
Of several ways to match, the one the pattern prefers is taken for which the rest follows. -/
def matchThen (flags : PatternFlags) :
    Pattern → Place → (rest : Place → Option Place) → Option Place
  | .empty, place, rest => rest place
  | .one set, place, rest =>
    match place.step? with
    | none => none
    | some (char, next) => if set.has flags char then rest next else none
  | .start, place, rest => if place.startsLine flags then rest place else none
  | .stop, place, rest => if place.endsLine flags then rest place else none
  | .boundary, place, rest => if place.isBoundary then rest place else none
  | .seq first second, place, rest =>
    first.matchThen flags place fun middle => second.matchThen flags middle rest
  | .alt first second, place, rest =>
    match first.matchThen flags place rest with
    | some last => some last
    | none => second.matchThen flags place rest
  | .rounds body least most manner, place, rest =>
    allRounds (body.matchThen flags) manner least most place rest

def matchesAt (flags : PatternFlags) (pattern : Pattern) (place : Place) : Bool :=
  (pattern.matchThen flags place some).isSome

/-- Whether the pattern matches at one of the next places, as many as there are characters left,
or at the place itself. -/
def occursFrom (flags : PatternFlags) (pattern : Pattern) : (fuel : Nat) → Place → Bool
  | 0, place => pattern.matchesAt flags place
  | fuel + 1, place =>
    pattern.matchesAt flags place ||
      (place.step?).any fun (_, next) => pattern.occursFrom flags fuel next

def occursIn (flags : PatternFlags) (pattern : Pattern) (text : List Char) : Bool :=
  pattern.occursFrom flags text.length (.between none text)

end Pattern

end ScriptGate
