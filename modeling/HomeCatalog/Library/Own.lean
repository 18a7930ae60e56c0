import HomeCatalog.Library
import HomeCatalog.Yaml.Document.Value

/-!
# The library that the program comes with

A reader of YAML, and the names of the printable characters of ASCII in letters of either case. What
is proved of the program is proved for every library; this one is there to run it.
-/

namespace HomeCatalog.Library

/-- The names of the printable characters that are neither digits nor letters. -/
def signNames : List (Char × String) :=
  [(' ', "SPACE"), ('!', "EXCLAMATION MARK"), ('"', "QUOTATION MARK"), ('#', "NUMBER SIGN"),
   ('$', "DOLLAR SIGN"), ('%', "PERCENT SIGN"), ('&', "AMPERSAND"), ('\'', "APOSTROPHE"),
   ('(', "LEFT PARENTHESIS"), (')', "RIGHT PARENTHESIS"), ('*', "ASTERISK"), ('+', "PLUS SIGN"),
   (',', "COMMA"), ('-', "HYPHEN-MINUS"), ('.', "FULL STOP"), ('/', "SOLIDUS"), (':', "COLON"),
   (';', "SEMICOLON"), ('<', "LESS-THAN SIGN"), ('=', "EQUALS SIGN"), ('>', "GREATER-THAN SIGN"),
   ('?', "QUESTION MARK"), ('@', "COMMERCIAL AT"), ('[', "LEFT SQUARE BRACKET"),
   ('\\', "REVERSE SOLIDUS"), (']', "RIGHT SQUARE BRACKET"), ('^', "CIRCUMFLEX ACCENT"),
   ('_', "LOW LINE"), ('`', "GRAVE ACCENT"), ('\x7b', "LEFT CURLY BRACKET"),
   ('|', "VERTICAL LINE"), ('\x7d', "RIGHT CURLY BRACKET"), ('~', "TILDE")]

/-- The digits in words. -/
def digitWords : List String :=
  ["ZERO", "ONE", "TWO", "THREE", "FOUR", "FIVE", "SIX", "SEVEN", "EIGHT", "NINE"]

/-- The names of the printable characters of ASCII. -/
def characterNames : List (Char × String) :=
  signNames ++
    ("0123456789".toList.zip digitWords).map (fun d => (d.1, "DIGIT " ++ d.2)) ++
    "ABCDEFGHIJKLMNOPQRSTUVWXYZ".toList.flatMap fun c =>
      [(c, "LATIN CAPITAL LETTER " ++ toString c),
       (c.toLower, "LATIN SMALL LETTER " ++ toString c)]

/-- The printable character of ASCII with a name. -/
def asciiNamed : Pattern.CharacterNames := fun name =>
  let capitals := String.ofList (name.toList.map Char.toUpper)
  (characterNames.find? fun c => c.2 == capitals).map (·.1)

/-- The library that the program comes with. -/
def own : Library :=
  ⟨Yaml.read, asciiNamed⟩

end HomeCatalog.Library
