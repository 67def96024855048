import LayerStencil.Condition.Token

/-! # The grammar of conditions

    or   :=  and ("or" and)*              and  :=  not ("and" not)*
    not  :=  "not" not | cmp              cmp  :=  atom (op atom)?
    op   :=  "==" | "!=" | "<" | "<=" | ">" | ">=" | "in" | "not" "in"
    atom :=  "(" or ")" | list | string | number | truth value | field
    list :=  "[" (or ("," or)*)? ","? "]"

The grammar is a relation between texts, not a way to read them: `Derives level cs e rest` says that
some part of `cs` before `rest` is derived from `level` with the tree `e`. Blanks may stand before
every token and at the end of the text. Nothing is said about how long a run of blanks or digits is,
nor in which order alternatives are tried; only a keyword must not go on with a name character. -/

namespace LayerStencil.Grammar

/-! ### Tokens -/

/-- Blanks, perhaps none, and then `rest`. -/
def Gap (cs rest : List Char) : Prop :=
  ∃ blanks, (∀ c ∈ blanks, Text.isBlank c) ∧ cs = blanks ++ rest

/-- The text does not start with a name character. -/
def EndsWord (rest : List Char) : Prop := ∀ c ∈ rest.head?, ¬ Text.isNameChar c

/-- The tokens that are signs, and how they are written. -/
def signs : List (List Char × Token) :=
  [(['('], .openParen), ([')'], .closeParen), (['['], .openBracket), ([']'], .closeBracket),
    ([','], .comma), (['=', '='], .compare .eq), (['!', '='], .compare .ne),
    (['<', '='], .compare .le), (['>', '='], .compare .ge), (['<'], .compare .lt),
    (['>'], .compare .gt)]

/-- The tokens that are keywords, and how they are written. -/
def keywords : List (List Char × Token) :=
  [(['n', 'o', 't'], .not), (['a', 'n', 'd'], .and), (['o', 'r'], .or), (['i', 'n'], .isIn),
    (['T', 'r', 'u', 'e'], .literal (.bool true)), (['t', 'r', 'u', 'e'], .literal (.bool true)),
    (['F', 'a', 'l', 's', 'e'], .literal (.bool false)),
    (['f', 'a', 'l', 's', 'e'], .literal (.bool false))]

/-- The number that digits after an optional minus sign denote. -/
def signed (negative : Bool) (digits : List Char) : Int :=
  if negative then -(Text.numberOf digits : Int) else Text.numberOf digits

/-- `Lexeme t cs rest`: the token `t` is written at the start of `cs`, before `rest`. -/
inductive Lexeme : Token → List Char → List Char → Prop
  | sign {s rest : List Char} {t : Token} (h : (s, t) ∈ signs) : Lexeme t (s ++ rest) rest
  | keyword {w rest : List Char} {t : Token} (h : (w, t) ∈ keywords) (hend : EndsWord rest) :
      Lexeme t (w ++ rest) rest
  | number {negative : Bool} {digits rest : List Char} (hne : digits ≠ [])
      (hdigits : ∀ c ∈ digits, Text.isAsciiDigit c)
      (hlow : -9223372036854775808 ≤ signed negative digits)
      (hhigh : signed negative digits ≤ 9223372036854775807) :
      Lexeme (.literal (.int (signed negative digits)))
        ((if negative then ['-'] else []) ++ (digits ++ rest)) rest
  | string {quote : Char} {s rest : List Char} (hquote : quote = '\'' ∨ quote = '"')
      (hs : quote ∉ s) : Lexeme (.text s) (quote :: (s ++ quote :: rest)) rest
  | field {name rest : List Char} (hne : name ≠ []) (hname : ∀ c ∈ name, Text.isNameChar c) :
      Lexeme (.field (String.ofList name)) ('{' :: (name ++ '}' :: rest)) rest

/-- A token after blanks. -/
def Symbol (t : Token) (cs rest : List Char) : Prop := ∃ r, Gap cs r ∧ Lexeme t r rest

/-! ### Trees -/

/-- The levels of the grammar, the loosest first, and the contents of a list. -/
inductive Level where
  | disjunction
  | conjunction
  | negation
  | comparison
  | operand
  /-- Expressions with commas between them; their tree is the list. -/
  | items

/-- The operators of comparisons. -/
inductive Operator : CompareOp → List Char → List Char → Prop
  | sign {op : CompareOp} {cs rest : List Char} (h : Symbol (.compare op) cs rest) :
      Operator op cs rest
  | isIn {cs rest : List Char} (h : Symbol .isIn cs rest) : Operator .isIn cs rest
  | notIn {cs r rest : List Char} (hnot : Symbol .not cs r) (hin : Symbol .isIn r rest) :
      Operator .notIn cs rest

/-- The end of a list: a closing bracket, perhaps after a comma. -/
def ListEnd (cs rest : List Char) : Prop :=
  ∃ r, (cs = r ∨ Symbol .comma cs r) ∧ Symbol .closeBracket r rest

/-- **The grammar.** The start of `cs` before `rest` is derived from the level with the tree `e`. -/
inductive Derives : Level → List Char → Expr → List Char → Prop
  | conjunction {cs rest : List Char} {a : Expr} (ha : Derives .conjunction cs a rest) :
      Derives .disjunction cs a rest
  | or {cs r r' rest : List Char} {a b : Expr} (ha : Derives .disjunction cs a r)
      (hor : Symbol .or r r') (hb : Derives .conjunction r' b rest) :
      Derives .disjunction cs (.or a b) rest
  | negation {cs rest : List Char} {a : Expr} (ha : Derives .negation cs a rest) :
      Derives .conjunction cs a rest
  | and {cs r r' rest : List Char} {a b : Expr} (ha : Derives .conjunction cs a r)
      (hand : Symbol .and r r') (hb : Derives .negation r' b rest) :
      Derives .conjunction cs (.and a b) rest
  | not {cs r rest : List Char} {e : Expr} (hnot : Symbol .not cs r)
      (he : Derives .negation r e rest) : Derives .negation cs (.not e) rest
  | comparison {cs rest : List Char} {e : Expr} (he : Derives .comparison cs e rest) :
      Derives .negation cs e rest
  | operand {cs rest : List Char} {a : Expr} (ha : Derives .operand cs a rest) :
      Derives .comparison cs a rest
  | compare {cs r r' rest : List Char} {op : CompareOp} {a b : Expr}
      (ha : Derives .operand cs a r) (hop : Operator op r r') (hb : Derives .operand r' b rest) :
      Derives .comparison cs (.compare op a b) rest
  | paren {cs r r' rest : List Char} {e : Expr} (hopen : Symbol .openParen cs r)
      (he : Derives .disjunction r e r') (hclose : Symbol .closeParen r' rest) :
      Derives .operand cs e rest
  | list {cs r r' rest : List Char} {es : List Expr} (hopen : Symbol .openBracket cs r)
      (hes : Derives .items r (.list es) r') (hend : ListEnd r' rest) :
      Derives .operand cs (.list es) rest
  | literal {cs rest : List Char} {v : Value} (h : Symbol (.literal v) cs rest) :
      Derives .operand cs (.literal v) rest
  | text {cs rest : List Char} {s : List Char} (h : Symbol (.text s) cs rest) :
      Derives .operand cs (.text s) rest
  | field {cs rest : List Char} {name : String} (h : Symbol (.field name) cs rest) :
      Derives .operand cs (.field name) rest
  | none {cs : List Char} : Derives .items cs (.list []) cs
  | one {cs rest : List Char} {e : Expr} (he : Derives .disjunction cs e rest) :
      Derives .items cs (.list [e]) rest
  | more {cs r r' rest : List Char} {e e' : Expr} {es : List Expr}
      (he : Derives .disjunction cs e r) (hcomma : Symbol .comma r r')
      (hes : Derives .items r' (.list (e' :: es)) rest) :
      Derives .items cs (.list (e :: e' :: es)) rest

/-- The whole text is derived, with the tree `e`, up to blanks at its end. -/
def Spells (cs : List Char) (e : Expr) : Prop :=
  ∃ rest, Derives .disjunction cs e rest ∧ Gap rest []

end LayerStencil.Grammar
