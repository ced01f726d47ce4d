import LiveBoard.Text.Alphanumeric
import LiveBoard.Text.LineBreak
import LiveBoard.Text.Width

/-! Paragraphs filled into lines whose gaps are balanced over the whole paragraph. -/

namespace LiveBoard.Text

/-- A part of a paragraph that stays on one line, with the spaces that may hang off its end. -/
structure Word where
  chars : List Char
  width : Nat
  spaces : Nat

namespace Word

/-- The word that takes up no room. -/
def empty : Word := ⟨[], 0, 0⟩

/-- A word of these characters, without spaces at its end. -/
def ofBare (chars : List Char) : Word := ⟨chars, cellsWidth (cells chars), 0⟩

/-- A word whose trailing spaces are set apart from it. -/
def ofChars (chars : List Char) : Word :=
  let bare := (chars.reverse.dropWhile (· = ' ')).reverse
  { ofBare bare with spaces := chars.length - bare.length }

/-- The columns that a word takes up when another follows it on the line. -/
def advance (word : Word) : Nat := word.width + word.spaces

/-- Give the spaces after a word to the last of its pieces. -/
def withSpacesAtEnd (spaces : Nat) : List Word → List Word
  | [] => []
  | [word] => [{ word with spaces }]
  | word :: rest => word :: withSpacesAtEnd spaces rest

/-- Cut characters after every hyphen that stands between letters or numbers. -/
def cutAtHyphens : List Char → List (List Char)
  | [] => [[]]
  | [c] => [[c]]
  | a :: b :: rest =>
    let joinHead (pieces : List (List Char)) : List (List Char) :=
      match pieces with
      | [] => [[a]]
      | piece :: others => (a :: piece) :: others
    match b, rest with
    -- The hyphen stays with what is before it, and what is behind may be cut again.
    | '-', c :: _ =>
      if isAlphanumeric a && isAlphanumeric c then [a, '-'] :: cutAtHyphens rest
      else joinHead (cutAtHyphens (b :: rest))
    | _, _ => joinHead (cutAtHyphens (b :: rest))

/-- The pieces of a word that hyphens inside it allow. -/
def atHyphens (word : Word) : List Word :=
  withSpacesAtEnd word.spaces ((cutAtHyphens word.chars).map ofBare)

/-- Cut cells wherever the next one would make a piece wider than the limit. -/
def cutAtWidth (limit : Nat) (chars : List Char) (width : Nat) : List Cell → List Word
  | [] => if chars.isEmpty then [] else [⟨chars, width, 0⟩]
  | cell :: rest =>
    -- A piece holds at least one cell, however wide, and a sequence stays with what is before it.
    if 0 < width && limit < width + cell.width && cell.visible.isSome then
      ⟨chars, width, 0⟩ :: cutAtWidth limit cell.chars cell.width rest
    else cutAtWidth limit (chars ++ cell.chars) (width + cell.width) rest

/-- The pieces of a word that is wider than a line; other words stay whole. -/
def atWidth (limit : Nat) (word : Word) : List Word :=
  if limit < word.width then withSpacesAtEnd word.spaces (cutAtWidth limit [] 0 (cells word.chars))
  else [word]

end Word

/-- Every visible cell with the terminal sequences before it, and those after the last one. -/
def cellGroups : List Cell → List (List Cell)
  | [] => []
  | cell :: rest =>
    match cell.visible, cellGroups rest with
    | none, group :: groups => (cell :: group) :: groups
    | _, groups => [cell] :: groups

/-- Keep only the breaks that do not follow a hyphen, be it a soft one. -/
def breaksNotAtHyphens : List Char → List Bool → List Bool
  | before :: chars, here :: breaks =>
    (here && before != '-' && before != '\u00ad') :: breaksNotAtHyphens chars breaks
  | _, _ => []

/-- Take back the last break of a line. -/
def dropLastBreak : List Bool → List Bool
  | [] => []
  | here :: rest =>
    if here && !rest.contains true then false :: rest else here :: dropLastBreak rest

/-- For every character of a line whether a new word starts with it. -/
def wordStarts (chars : List Char) : List Bool :=
  let starts := false :: breaksNotAtHyphens chars ((lineBreaks chars).drop 1)
  -- The end of a line is its last break, unless it follows a hyphen; the last break is not taken.
  match chars.getLast? with
  | some '-' | some '\u00ad' => dropLastBreak starts
  | _ => starts

/-- Join groups of characters from each start of a word up to the next. -/
def joinGroups : List (List Char × Bool) → List (List Char)
  | [] => []
  | (group, _) :: rest =>
    match rest, joinGroups rest with
    | (_, false) :: _, word :: words => (group ++ word) :: words
    | _, words => group :: words

/-- The words of a line. -/
def lineWords (line : List Char) : List Word :=
  let row := cells line
  let groups := (cellGroups row).map fun group => group.flatMap (·.chars)
  let starts := wordStarts (row.filterMap (·.visible))
  -- Sequences at the very end belong to the last word.
  let padded := starts ++ List.replicate (groups.length - starts.length) false
  (joinGroups (groups.zip padded)).map Word.ofChars

/-- How lines are weighed against each other. -/
structure FillCosts where
  /-- Every line costs this much. -/
  line : Nat
  /-- A line too wide costs this much for every column. -/
  overflow : Nat
  /-- A last line of one word is short when it takes up less than this fraction of the width. -/
  shortFraction : Nat
  /-- A short last line costs this much. -/
  shortLine : Nat

/-- Few lines come first, then lines of nearly the same width. -/
def FillCosts.balanced : FillCosts := ⟨1000, 2500, 4, 25⟩

/-- The cost of a line of the given width, which is the last one and holds one word or not. -/
def FillCosts.ofLine (costs : FillCosts) (limit width : Nat) (isLast isSingle : Bool) : Nat :=
  costs.line +
    if limit < width then costs.overflow * (width - limit)
    else if !isLast then (limit - width) * (limit - width)
    else if isSingle && costs.shortFraction * width < limit then costs.shortLine
    else 0

/-- The cheapest way to fill the words before a place: where its last line starts, and its cost. -/
structure Filling where
  start : Nat
  cost : Nat
  deriving Inhabited

/--
The cheapest filling that ends before the place `stop`.

`offsets` holds the columns before each word, and `best` the fillings that end earlier. Of equal
fillings the one with the longest last line is taken.
-/
def cheapest (costs : FillCosts) (limit : Nat) (words : Array Word) (offsets : Array Nat)
    (best : Array Filling) (stop : Nat) : Filling :=
  let reach := offsets.getD stop 0 - ((words[stop - 1]?).elim 0 (·.spaces))
  let filling (start : Nat) : Filling :=
    let width := reach - offsets.getD start 0
    let line := costs.ofLine limit width (stop = words.size) (start + 1 = stop)
    ⟨start, (best[start]?).elim 0 (·.cost) + line⟩
  (List.range stop).foldl (fun least start =>
    let next := filling start
    if next.cost < least.cost then next else least) (filling 0)

/-- For every place between words the cheapest filling that ends there. -/
def fillings (costs : FillCosts) (limit : Nat) (words : Array Word) : Array Filling :=
  let offsets := words.foldl (fun sums word => sums.push (sums.back?.getD 0 + word.advance)) #[0]
  (List.range words.size).foldl (fun best before =>
    best.push (cheapest costs limit words offsets best (before + 1))) #[⟨0, 0⟩]

/-- The lines of the cheapest filling that ends before a place, the last line first. -/
def linesBefore (words : Array Word) (best : Array Filling) (stop : Nat) : List (List Word) :=
  match stop with
  | 0 => []
  | before + 1 =>
    -- Every line holds a word, which is why this comes to an end.
    let start := min ((best[before + 1]?).elim 0 (·.start)) before
    (words.extract start (before + 1)).toList :: linesBefore words best start
termination_by stop

/-- Words filled into lines. -/
def fillWords (limit : Nat) (words : Array Word) : List (List Word) :=
  (linesBefore words (fillings .balanced limit words) words.size).reverse

/-- The characters of a line of words, without the spaces at its end. -/
def lineChars : List Word → List Char
  | [] => []
  | [word] => word.chars
  | word :: rest => word.chars ++ List.replicate word.spaces ' ' ++ lineChars rest

/-- The lines of one paragraph; every line starts with the indent, which takes up its width. -/
def paragraphLines (limit : Nat) (indent : String) (paragraph : List Char) : List String :=
  -- A paragraph of so few bytes fits on a line, whatever its characters are.
  if (String.ofList paragraph).utf8ByteSize < limit && indent.isEmpty then
    [String.ofList (paragraph.reverse.dropWhile (· = ' ')).reverse]
  else
    let inner := limit - width indent
    let words := (lineWords paragraph).flatMap fun word =>
      word.atHyphens.flatMap (·.atWidth inner)
    -- An indent may stand on a line of its own.
    let words := if indent.isEmpty then words else .empty :: words
    (fillWords (max inner 1) words.toArray).map fun line =>
      indent ++ String.ofList (lineChars line)

/-- Drop the carriage return from the end of every line but the last. -/
def dropReturns : List (List Char) → List (List Char)
  | [] => []
  | [line] => [line]
  | line :: rest =>
    (if line.getLast? = some '\r' then line.dropLast else line) :: dropReturns rest

/-- A text filled to a width: each of its lines is a paragraph, indented by `indent`. -/
def fill (text : String) (limit : Nat) (indent : String) : String :=
  let paragraphs := dropReturns (text.toList.splitOn '\n')
  "\n".intercalate (paragraphs.flatMap (paragraphLines limit indent))

end LiveBoard.Text
