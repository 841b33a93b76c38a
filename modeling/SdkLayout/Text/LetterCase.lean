import SdkLayout.Text.CaseTable

/-!
# Upper and lower case

The case of a character is decided by its Unicode properties, and changing the case of a text uses
the full mappings: one character may become several (`ß` becomes `SS`).

**Final sigma.** One mapping looks at its surroundings. A capital sigma at the end of a word (cased
letters before it, none after it, ignorable characters skipped) becomes `ς`, elsewhere `σ`. Only
the mapping of a whole text knows where a word ends, so `lower` and a character by character
`lowerChar` may differ there.

ASCII is a branch of its own in every definition, so that statements on ASCII names never meet the
tables.
-/

namespace SdkLayout.Text

/-- Whether a character belongs to ASCII. -/
def isAscii (c : Char) : Bool :=
  decide (c.toNat < 128)

/-- Whether a character is an upper case letter. -/
def isUpper (c : Char) : Bool :=
  if isAscii c then c.isUpper else inRuns CaseTable.upper c

/-- Whether a character is a lower case letter. -/
def isLower (c : Char) : Bool :=
  if isAscii c then c.isLower else inRuns CaseTable.lower c

/-- Whether a character has case at all: upper, lower or title case. -/
def isCased (c : Char) : Bool :=
  isUpper c || isLower c || inRuns CaseTable.title c

/-- Whether a character is passed over when the case of its surroundings is judged. -/
def isCaseIgnorable (c : Char) : Bool :=
  if isAscii c then [0x27, 0x2E, 0x3A, 0x5E, 0x60].contains c.toNat
  else inRuns CaseTable.ignorable c

/-! ### Single characters -/

/-- The upper case of a character. -/
def upperChar (c : Char) : List Char :=
  if isAscii c then [c.toUpper]
  else match expansion? CaseTable.toUpperLong c with
    | some cs => cs
    | none => [(shift? CaseTable.toUpper c).getD c]

/-- The lower case of a character, whatever stands around it. -/
def lowerChar (c : Char) : List Char :=
  if isAscii c then [c.toLower]
  else match expansion? CaseTable.toLowerLong c with
    | some cs => cs
    | none => [(shift? CaseTable.toLower c).getD c]

/-! ### Texts -/

/-- The upper case of a text. -/
def upper (cs : List Char) : List Char :=
  cs.flatMap upperChar

/-- Whether the first character that is not ignorable has case. -/
def startsCased (cs : List Char) : Bool :=
  (cs.dropWhile isCaseIgnorable).head?.any isCased

/-- The lower case of `c` between the characters `before` it, nearest first, and those `after`
it. -/
def lowerBetween (before : List Char) (c : Char) (after : List Char) : List Char :=
  if c = 'Σ' then
    if startsCased before && !startsCased after then ['ς'] else ['σ']
  else lowerChar c

/-- The lower case of a text that follows `before`, given nearest character first. -/
def lowerAfter (before : List Char) : List Char → List Char
  | [] => []
  | c :: rest => lowerBetween before c rest ++ lowerAfter (c :: before) rest

/-- The lower case of a text. -/
def lower (cs : List Char) : List Char :=
  lowerAfter [] cs

@[simp] theorem upper_nil : upper [] = [] := rfl

@[simp] theorem lower_nil : lower [] = [] := rfl

/-- The first character in upper case, the others in lower case one by one. -/
def capitalize : List Char → List Char
  | [] => []
  | c :: rest => upperChar c ++ rest.flatMap lowerChar

@[simp] theorem capitalize_nil : capitalize [] = [] := rfl

end SdkLayout.Text

namespace SdkLayout

/-- The lower case of a string. -/
def lowercase (s : String) : String :=
  String.ofList (Text.lower s.toList)

end SdkLayout
