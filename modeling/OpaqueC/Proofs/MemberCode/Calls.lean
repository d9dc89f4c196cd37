import Mathlib.Data.List.Forall2
import OpaqueC.Proofs.MemberCode.NestedCalls

/-!
# Calls in generated code

A line of C calls the functions whose names stand right in front of an opening parenthesis. They are
read off the characters of the line from left to right, with the beginning of the identifier that is
being read. Keywords such as `if` do not count, since generated code has a blank behind them.

A call is well-typed if its arguments have the types of the parameters. The check is stricter than
the one of C: types are compared as texts, with no conversion between them.

## Main definitions

* `Text.callees`: the names of the functions that a line calls, in order;
* `Fragment.callees`: the names of the functions that fragments call, at every depth;
* `HasType`: the expressions made of calls and variables that have a given type.

## Main results

* `Text.callees_call`: a name in front of a parenthesis is read whole, and reading goes on behind
  the parenthesis;
* `Text.callees_eq_nil`: nothing is called without a parenthesis.
-/

namespace OpaqueC

namespace Text

/-- The names of called functions in a text, behind the beginning `word` of an identifier. -/
def calleesFrom (word : List Char) : List Char → List String
  | [] => []
  | c :: cs =>
    if isIdentifierPart c then calleesFrom (word ++ [c]) cs
    else (if c = '(' ∧ word ≠ [] then [String.ofList word] else []) ++ calleesFrom [] cs

/-- The names of the functions that a line of code calls, in order. -/
def callees (line : String) : List String :=
  calleesFrom [] line.toList

variable {cs : List Char} {c : Char}

/-- An identifier is read to its end. -/
theorem calleesFrom_identifier (h : cs.all isIdentifierPart = true) (word rest : List Char) :
    calleesFrom word (cs ++ rest) = calleesFrom (word ++ cs) rest := by
  induction cs generalizing word with
  | nil => rw [List.nil_append, List.append_nil]
  | cons c cs ih =>
    rw [List.all_cons, Bool.and_eq_true] at h
    rw [List.cons_append, calleesFrom, if_pos h.1, ih h.2, List.append_assoc,
      List.singleton_append]

/-- An opening parenthesis behind an identifier is a call. -/
theorem calleesFrom_parenthesis {word : List Char} (hword : word ≠ []) (rest : List Char) :
    calleesFrom word ('(' :: rest) = String.ofList word :: calleesFrom [] rest := by
  have hparenthesis : isIdentifierPart '(' = false := by decide
  rw [calleesFrom, hparenthesis, if_neg Bool.false_ne_true, if_pos ⟨rfl, hword⟩,
    List.singleton_append]

/-- A character that is no opening parenthesis goes on with an identifier or breaks it off. -/
theorem calleesFrom_cons_of_ne (hc : c ≠ '(') (word rest : List Char) :
    calleesFrom word (c :: rest) =
      calleesFrom (if isIdentifierPart c then word ++ [c] else []) rest := by
  have hcall : ¬ (c = '(' ∧ word ≠ []) := fun h => hc h.1
  rw [calleesFrom]
  cases isIdentifierPart c with
  | true => rfl
  | false => simp [hcall]

/-- What comes before the last break of a text without calls does not matter. -/
theorem calleesFrom_append_break (hcs : '(' ∉ cs) (hc : isIdentifierPart c = false) (hne : c ≠ '(')
    (word rest : List Char) : calleesFrom word (cs ++ c :: rest) = calleesFrom [] rest := by
  -- By induction on `cs` for any word read so far, as `c` drops it.
  induction cs generalizing word with
  | nil => rw [List.nil_append, calleesFrom_cons_of_ne hne, hc, if_neg Bool.false_ne_true]
  | cons d ds ih =>
    rw [List.mem_cons, not_or] at hcs
    rw [List.cons_append, calleesFrom_cons_of_ne (Ne.symm hcs.1), ih hcs.2]

theorem calleesFrom_eq_nil (hcs : '(' ∉ cs) (word : List Char) : calleesFrom word cs = [] := by
  induction cs generalizing word with
  | nil => rfl
  | cons d ds ih =>
    rw [List.mem_cons, not_or] at hcs
    rw [calleesFrom_cons_of_ne (Ne.symm hcs.1), ih hcs.2]

/-- A line without an opening parenthesis calls nothing. -/
theorem callees_eq_nil {line : String} (h : '(' ∉ line.toList) : callees line = [] :=
  calleesFrom_eq_nil h []

/-- Whether no identifier goes on behind a text. -/
def breaksOff (front : String) : Bool :=
  front.toList.getLast?.all fun c => !isIdentifierPart c

/-- A line calls the function whose name stands in front of its first opening parenthesis, and the
functions that are called behind it. -/
theorem callees_call {front function : String} (hfront : '(' ∉ front.toList)
    (hbreak : breaksOff front = true) (hfunction : isIdentifier function = true)
    (rest : String) : callees (front ++ function ++ "(" ++ rest) = function :: callees rest := by
  have hname : ∀ cs : List Char, calleesFrom [] (function.toList ++ '(' :: cs) =
      function :: calleesFrom [] cs := by
    intro cs
    have hne : function.toList ≠ [] := by
      intro hnil
      rw [isIdentifier, hnil] at hfunction
      exact Bool.noConfusion hfunction
    rw [calleesFrom_identifier (all_isIdentifierPart hfunction), List.nil_append,
      calleesFrom_parenthesis hne, String.ofList_toList]
  have hline : (front ++ function ++ "(" ++ rest).toList =
      front.toList ++ (function.toList ++ '(' :: rest.toList) := by
    simp only [String.toList_append, List.append_assoc]
    rfl
  rw [callees, hline]
  -- The name is read from the beginning of a word in both cases, but for a different reason.
  rcases List.eq_nil_or_concat front.toList with hnil | ⟨cs, c, hcs⟩
  · rw [hnil, List.nil_append, hname, callees]
  · -- The last character of `front` ends whatever was read before it.
    rw [List.concat_eq_append] at hcs
    rw [hcs, List.mem_append, List.mem_singleton, not_or] at hfront
    rw [breaksOff, hcs, List.getLast?_concat, Option.all_some, Bool.not_eq_true'] at hbreak
    rw [hcs, List.append_assoc, List.singleton_append,
      calleesFrom_append_break hfront.1 hbreak (Ne.symm hfront.2), hname, callees]

/-- A call that no other call is part of, as a statement or behind what its result is stored in. -/
theorem callees_statement {front function arguments : String} (hfront : '(' ∉ front.toList)
    (hbreak : breaksOff front = true) (hfunction : isIdentifier function = true)
    (harguments : '(' ∉ arguments.toList) :
    callees (front ++ function ++ "(" ++ arguments ++ ");") = [function] := by
  have hrest : '(' ∉ (arguments ++ ");").toList := by
    rw [String.toList_append, List.mem_append, not_or]
    exact ⟨harguments, by decide⟩
  rw [String.append_assoc, callees_call hfront hbreak hfunction, callees_eq_nil hrest]

example : callees "ok = ok && Foo_set_A(p, Foo_get_A(q));" = ["Foo_set_A", "Foo_get_A"] := by
  decide +kernel

end Text

/-- The names of the functions that fragments call, at every depth and in order. -/
def Fragment.callees (fs : List Fragment) : List String :=
  (allCodeLines fs).flatMap Text.callees

/-- The expressions of a given type, where some functions can be called and some variables are
declared. -/
inductive HasType (functions : List Signature) (declared : List Parameter) :
    String → String → Prop
  /-- A variable has the type that it is declared with. -/
  | var {v : Parameter} (hv : v ∈ declared) : HasType functions declared v.name v.type
  /-- A call has the result type of the function, if the arguments have the types of its
  parameters. -/
  | call {s : Signature} {arguments : List String} (hs : s ∈ functions)
      (harguments : List.Forall₂ (fun e (p : Parameter) => HasType functions declared e p.type)
        arguments s.parameters) :
      HasType functions declared (s.name ++ "(" ++ ", ".intercalate arguments ++ ")") s.result

namespace HasType

variable {functions : List Signature} {declared : List Parameter} {s : Signature}

theorem call_nil (hs : s ∈ functions) (hparameters : s.parameters = []) :
    HasType functions declared (s.name ++ "(" ++ "" ++ ")") s.result := by
  have hcall : HasType functions declared (s.name ++ "(" ++ ", ".intercalate [] ++ ")") s.result :=
    .call hs (hparameters ▸ .nil)
  rwa [String.intercalate_nil] at hcall

theorem call_singleton {p : Parameter} {e : String} (hs : s ∈ functions)
    (hparameters : s.parameters = [p]) (he : HasType functions declared e p.type) :
    HasType functions declared (s.name ++ "(" ++ e ++ ")") s.result := by
  have hcall : HasType functions declared (s.name ++ "(" ++ ", ".intercalate [e] ++ ")") s.result :=
    .call hs (hparameters ▸ .cons he .nil)
  rwa [String.intercalate_singleton] at hcall

end HasType

end OpaqueC
