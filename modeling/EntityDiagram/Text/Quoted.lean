import EntityDiagram.Text.Printable

namespace EntityDiagram.Text

/-- A character by its code point, in lower case hexadecimal digits. -/
def codeEscape (c : Char) : List Char :=
  '\\' :: 'u' :: '{' :: Nat.toDigits 16 c.toNat ++ ['}']

def escape (c : Char) : List Char :=
  if c = '\x00' then ['\\', '0']
  else if c = '\t' then ['\\', 't']
  else if c = '\r' then ['\\', 'r']
  else if c = '\n' then ['\\', 'n']
  else if c = '"' ∨ c = '\\' then ['\\', c]
  else if isPrintable c then [c]
  else codeEscape c

def quoted (text : String) : String :=
  String.ofList ('"' :: text.toList.flatMap escape ++ ['"'])

/-- The character meant by a backslash and `c`: any but `n`, `t` and `r` stands for itself. -/
def unescape (c : Char) : Char :=
  if c = 'n' then '\n' else if c = 't' then '\t' else if c = 'r' then '\r' else c

/--
Splits what follows an opening quote after the closing one. A line break ends the text, too,
unless a backslash stands before it.
-/
def splitQuoted : List Char → List Char × List Char
  | [] => ([], [])
  | '\\' :: c :: cs => (splitQuoted cs).map ('\\' :: c :: ·) id
  | c :: cs =>
    if c = '"' ∨ c = '\n' then ([c], cs) else (splitQuoted cs).map (c :: ·) id

/-- The content of what follows an opening quote, when it ends in the first closing one. -/
def unquote? : List Char → Option (List Char)
  | [] => none
  | '\\' :: c :: cs => (unquote? cs).map (unescape c :: ·)
  | c :: cs =>
    if c = '"' then if cs = [] then some [] else none
    else if c = '\n' ∨ c = '\\' then none
    else (unquote? cs).map (c :: ·)

theorem splitQuoted_append (cs : List Char) : (splitQuoted cs).1 ++ (splitQuoted cs).2 = cs := by
  fun_induction splitQuoted cs with
  | case1 => rfl
  | case2 c cs ih => simp [ih]
  | case3 c cs _ h => rfl
  | case4 c cs _ h ih => simp [ih]

end EntityDiagram.Text
