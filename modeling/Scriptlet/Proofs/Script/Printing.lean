import Scriptlet.Script.Printer
import Scriptlet.Proofs.Script.Bare
import Scriptlet.Proofs.Script.Statements
import Scriptlet.Proofs.Token.Spelling

/-!
# Printing: a printed script is read as the phrase that it was printed from

`Prints F D R cs`: wherever the text `cs` stands, if `F` holds of the text after it, its tokens are
a phrase of `D` for something that `R` holds of.  Texts that print phrases, one after the other,
print the phrases one after the other (`Prints.andThen`).

* `prints_expr`        an expression is printed as a factor that is equal to it up to spans;
* `prints_statement`, `prints_script`  so for statements and scripts.
-/

namespace Scriptlet.Parser

open Grammar

section
variable {α β : Type}

def Prints (F : List Char → Prop) (D : Phrase α) (R : α → Prop) (cs : List Char) : Prop :=
  ∀ (n : Nat) (rest : List Char), F rest →
    ∃ us a, Token.allFrom ⟨n, cs ++ rest⟩
      = us ++ Token.allFrom ⟨n + Text.byteLength cs, rest⟩ ∧ D us a ∧ R a

def AnyText (_ : List Char) : Prop := True

variable {F G : List Char → Prop} {D : Phrase α} {R : α → Prop} {cs ds gap : List Char}
  {E : α → Phrase β} {S : β → Prop}

theorem Prints.imp {E : Phrase β} {S : β → Prop} (h : Prints F D R cs)
    (hE : ∀ {us a}, D us a → R a → ∃ b, E us b ∧ S b) : Prints F E S cs := by
  intro n rest hrest
  obtain ⟨us, a, hus, ha, hR⟩ := h n rest hrest
  obtain ⟨b, hb⟩ := hE ha hR
  exact ⟨us, b, hus, hb⟩

theorem prints_one {kind : Token.Kind} {t : String}
    (h : ∀ {rest}, F rest → Token.Lexeme kind t cs rest) :
    Prints F (One kind) (fun u => u.text = t) cs := by
  intro n rest hrest
  exact ⟨[_], _, Token.allFrom_lexeme (List.forall_mem_nil _) (h hrest) n, ⟨rfl, rfl⟩, rfl⟩

theorem prints_done {a : α} (ha : R a) : Prints F (Nothing a) R [] :=
  fun _ _ _ => ⟨[], a, rfl, ⟨rfl, rfl⟩, ha⟩

theorem Prints.after_gap (h : Prints F D R cs) (hgap : Token.Blanks gap) :
    Prints F D R (gap ++ cs) := by
  intro n rest hrest
  obtain ⟨us, a, hus, ha⟩ := h (n + Text.byteLength gap) rest hrest
  refine ⟨us, a, ?_, ha⟩
  rw [List.append_assoc, Token.allFrom_gap hgap, hus, Text.byteLength_append, Nat.add_assoc]

theorem Prints.before_gap (h : Prints F D R cs) (hgap : Token.Blanks gap)
    (hF : ∀ rest, F (gap ++ rest)) : Prints AnyText D R (cs ++ gap) := by
  intro n rest _
  obtain ⟨us, a, hus, ha⟩ := h n (gap ++ rest) (hF rest)
  refine ⟨us, a, ?_, ha⟩
  rw [List.append_assoc, hus, Token.allFrom_gap hgap, Text.byteLength_append, Nat.add_assoc]

/-- **One text after the other.** -/
theorem Prints.andThen (h : Prints F D R cs) (hE : ∀ {a}, R a → Prints G (E a) S ds)
    (hF : ∀ {rest}, G rest → F (ds ++ rest)) : Prints G (Then D E) S (cs ++ ds) := by
  intro n rest hrest
  obtain ⟨us, a, hus, ha, hR⟩ := h n (ds ++ rest) (hF hrest)
  obtain ⟨vs, b, hvs, hb, hS⟩ := hE hR (n + Text.byteLength cs) rest hrest
  refine ⟨us ++ vs, b, ?_, ⟨us, vs, a, rfl, ha, hb⟩, hS⟩
  rw [List.append_assoc, hus, hvs, Text.byteLength_append, Nat.add_assoc, List.append_assoc]

theorem prints_repeated {γ δ : Type} {key : α → δ} {key' : γ → δ} {text : γ → List Char}
    {bs : List γ} (h : ∀ b ∈ bs, Prints F D (fun a => key a = key' b) (text b))
    (hF : ∀ b rest, F (text b ++ rest)) :
    Prints F (Repeated D) (fun as => as.map key = bs.map key') (bs.flatMap text) := by
  induction bs with
  | nil => exact fun n rest _ => ⟨[], [], rfl, .nil, rfl⟩
  | cons b bs ih =>
    intro n rest hrest
    obtain ⟨hb, hbs⟩ := List.forall_mem_cons.mp h
    have hnext : F (bs.flatMap text ++ rest) := by
      cases bs with
      | nil => exact hrest
      | cons b' bs =>
        rw [List.flatMap_cons, List.append_assoc]
        exact hF b' _
    obtain ⟨us, a, hus, ha, hkey⟩ := hb n _ hnext
    obtain ⟨vs, as, hvs, has, hkeys⟩ := ih hbs (n + Text.byteLength (text b)) rest hrest
    refine ⟨us ++ vs, a :: as, ?_, .cons ha has, ?_⟩
    · rw [List.flatMap_cons, List.append_assoc, hus, hvs, Text.byteLength_append, Nat.add_assoc,
        List.append_assoc]
    · show (a :: as).map key = (b :: bs).map key'
      rw [List.map_cons, hkey, hkeys, List.map_cons]

end

/-! ## single tokens -/

/-- The next character goes on with no name and no number. -/
def Stops (rest : List Char) : Prop :=
  Token.Ends Token.isWordChar rest ∧ Token.Ends Token.isNumberChar rest

theorem stops_cons {c : Char} (h : (Token.isWordChar c || Token.isNumberChar c) = false)
    (rest : List Char) : Stops (c :: rest) := by
  obtain ⟨hword, hnumber⟩ := Bool.or_eq_false_iff.mp h
  exact ⟨Token.ends_cons.mpr hword, Token.ends_cons.mpr hnumber⟩

theorem blanks_space : Token.Blanks [' '] := List.forall_mem_singleton.mpr (by decide)

theorem prints_symbol {c : Char} (h : Token.IsMark c) :
    Prints AnyText (One (.symbol c)) (fun u => u.text = String.ofList [c]) [c] :=
  prints_one fun _ => h.lexeme _

theorem prints_keyword (k : Keyword) :
    Prints Stops (One (.keyword k)) (fun u => u.text = k.text) k.text.toList :=
  prints_one fun hrest => Token.lexeme_of_keyword k hrest.1

theorem prints_name {n : String} (h : Token.IsName n) :
    Prints Stops Name (fun x => x.name = n) n.toList := by
  have hone : Prints Stops (One .identifier) (fun t => t.text = n) n.toList :=
    prints_one fun hrest => h.lexeme hrest.1
  exact hone.imp fun {us t} ht htext => ⟨identOf t, name_iff.mpr ⟨t, ht.1, ht.2, rfl⟩, htext⟩

/-! ## expressions -/

def Operation (op : Operator) : Phrase Expr :=
  Then (One (.symbol '(')) fun opening => Then (ExprPhrase exactly .factor) fun a =>
    Then (One (.symbol op.symbol)) fun _ => Then (ExprPhrase exactly .factor) fun b =>
      Then (One (.symbol ')')) fun closing =>
        Nothing ((a.join op b).withSpan (opening.span.union closing.span))

theorem factor_of_operation {op : Operator} {us : List Token} {e : Expr} (h : Operation op us e) :
    ExprPhrase exactly .factor us e := by
  obtain ⟨opening, _, rfl, hopening, h⟩ := then_one_iff.mp h
  obtain ⟨xs, _, a, rfl, ha, h⟩ := h
  obtain ⟨sign, _, rfl, hsign, h⟩ := then_one_iff.mp h
  obtain ⟨ys, _, b, rfl, hb, h⟩ := h
  obtain ⟨closing, -, rfl, hclosing, rfl, rfl⟩ := then_one_iff.mp h
  have hgroup := ExprPhrase.group hopening (ha.expr_join hsign hb) hclosing
  rwa [List.append_assoc] at hgroup

theorem isMark_symbol (op : Operator) : Token.IsMark op.symbol := by cases op <;> decide

theorem text_binary (op : Operator) (l r : Expr) (s : Span) :
    (Expr.binary op l r s).text.toList
      = ['('] ++ (l.text.toList
        ++ ([' '] ++ [op.symbol] ++ ([' '] ++ r.text.toList ++ ([')'] ++ [])))) := by
  simp [Expr.text]

/-- An expression is printed as a factor that is equal to it up to spans. -/
theorem prints_factor {e : Expr} (he : e.All Token.IsName Number.IsPlain) :
    Prints Stops (ExprPhrase exactly .factor) (fun e' => e'.bare = e.bare) e.text.toList := by
  induction e with
  | number v s =>
    have hone : Prints Stops (One .number) (fun t => t.text = v.text) v.text.toList :=
      prints_one fun hrest => Token.lexeme_of_finite he.1 he.2 hrest.2
    refine hone.imp fun {us t} ht htext => ⟨.number v t.span, ?_, rfl⟩
    obtain ⟨rfl, hkind⟩ := ht
    refine .number hkind ?_
    show Number.ofText? t.text = some v
    rw [htext, Number.ofText?_text he.1 he.2]
  | var x s =>
    refine (prints_name he).imp fun {us y} hy hname => ?_
    obtain ⟨t, rfl, ht, rfl⟩ := name_iff.mp hy
    refine ⟨_, .var ht, ?_⟩
    show Expr.var ⟨t.text, _⟩ _ = Expr.var ⟨x.name, _⟩ _
    rw [← hname]
    rfl
  | binary op l r s ihl ihr =>
    rw [text_binary]
    have hoperation : Prints Stops (Operation op) (fun e' => e'.bare = (Expr.binary op l r s).bare)
        (['('] ++ (l.text.toList ++ ([' '] ++ [op.symbol] ++
          ([' '] ++ r.text.toList ++ ([')'] ++ []))))) := by
      refine (prints_symbol (by decide)).andThen (fun _ => ?_) fun _ => trivial
      refine (ihl he.1).andThen (fun {a} ha => ?_) fun _ => stops_cons (by decide) _
      refine ((prints_symbol (isMark_symbol op)).after_gap blanks_space).andThen (fun _ => ?_)
        fun _ => trivial
      refine ((ihr he.2).after_gap blanks_space).andThen (fun {b} hb => ?_)
        fun _ => stops_cons (by decide) _
      refine (prints_symbol (by decide)).andThen (fun _ => prints_done ?_) fun _ => trivial
      rw [Expr.bare_withSpan, Expr.bare_join, ha, hb]
      rfl
    exact hoperation.imp fun h hbare => ⟨_, factor_of_operation h, hbare⟩

theorem prints_expr {e : Expr} (he : e.All Token.IsName Number.IsPlain) :
    Prints Stops (ExprPhrase exactly .expr) (fun e' => e'.bare = e.bare) e.text.toList :=
  (prints_factor he).imp fun h hbare => ⟨_, h.expr_of_factor, hbare⟩

/-! ## statements -/

def laterText (e : Expr) : List Char := [','] ++ ([' '] ++ e.text.toList)

theorem prints_laterArg {e : Expr} (he : e.All Token.IsName Number.IsPlain) :
    Prints Stops (LaterArg exactly) (fun e' => e'.bare = e.bare) (laterText e) := by
  rw [← laterArg_eq]
  exact (prints_symbol (by decide)).andThen (fun _ => (prints_expr he).after_gap blanks_space)
    fun _ => trivial

theorem toList_intercalate_cons (s t : String) (ts : List String) :
    (s.intercalate (t :: ts)).toList = t.toList ++ ts.flatMap fun u => s.toList ++ u.toList := by
  induction ts generalizing t with
  | nil => simp
  | cons u ts ih =>
    rw [String.intercalate_cons_cons, String.toList_append, String.toList_append, ih,
      List.flatMap_cons, List.append_assoc, List.append_assoc]

theorem prints_args {es : List Expr} (hes : ∀ e ∈ es, e.All Token.IsName Number.IsPlain) :
    Prints Stops (ArgsPhrase exactly) (fun es' => es'.map Expr.bare = es.map Expr.bare)
      (String.intercalate ", " (es.map Expr.text)).toList := by
  cases es with
  | nil => exact fun n rest _ => ⟨[], [], rfl, .none, rfl⟩
  | cons e es =>
    obtain ⟨he, hes⟩ := List.forall_mem_cons.mp hes
    have hlater := prints_repeated (F := Stops) (D := LaterArg exactly)
      (fun e' he' => prints_laterArg (hes e' he')) (fun e' rest => stops_cons (by decide) _)
    have hmore : Prints Stops (More (ExprPhrase exactly .expr) (LaterArg exactly))
        (fun es' => es'.map Expr.bare = (e :: es).map Expr.bare)
        (e.text.toList ++ (es.flatMap laterText ++ [])) := by
      refine (prints_expr he).andThen (fun {a} ha => ?_) fun {rest} hrest => ?_
      · refine hlater.andThen (fun {as} has => prints_done ?_) fun hrest => hrest
        rw [List.map_cons, ha, has, List.map_cons]
      · cases es with
        | nil => exact hrest
        | cons e' es => exact stops_cons (by decide) _
    have htext : (String.intercalate ", " ((e :: es).map Expr.text)).toList
        = e.text.toList ++ es.flatMap laterText := by
      rw [List.map_cons, toList_intercalate_cons, List.flatMap_map]
      rfl
    rw [htext]
    rw [List.append_nil] at hmore
    exact hmore.imp fun h hbare => ⟨_, argsPhrase_of_more h, hbare⟩

theorem text_assign (x : Ident) (e : Expr) :
    (Statement.assign x e).text.toList
      = Keyword.var.text.toList ++ ([' '] ++ x.name.toList ++ ([' '] ++ ['='] ++
          ([' '] ++ e.text.toList ++ ([';'] ++ [])))) := by
  simp [Statement.text, Keyword.text]

theorem text_call (f : Ident) (es : List Expr) :
    (Statement.call f es).text.toList
      = f.name.toList ++ (['('] ++ ((String.intercalate ", " (es.map Expr.text)).toList ++
          ([')'] ++ ([';'] ++ [])))) := by
  simp [Statement.text]

theorem prints_statement {st : Statement} (hst : st.All Token.IsName Number.IsPlain) :
    Prints AnyText (StatementPhrase exactly) (fun st' => st'.bare = st.bare) st.text.toList := by
  cases st with
  | assign x e =>
    refine Prints.imp (D := Then (One (.keyword .var)) fun _ => Assignment)
      (R := fun st' => st'.bare = (Statement.assign x e).bare) ?_ fun h hbare => ⟨_, ?_, hbare⟩
    · rw [text_assign]
      refine (prints_keyword .var).andThen (fun _ => ?_) fun _ => stops_cons (by decide) _
      refine ((prints_name hst.1).after_gap blanks_space).andThen (fun {y} hy => ?_)
        fun _ => stops_cons (by decide) _
      refine ((prints_symbol (by decide)).after_gap blanks_space).andThen (fun _ => ?_)
        fun _ => trivial
      refine ((prints_expr hst.2).after_gap blanks_space).andThen (fun {a} ha => ?_)
        fun _ => stops_cons (by decide) _
      refine (prints_symbol (by decide)).andThen (fun _ => prints_done ?_) fun _ => trivial
      show Statement.assign ⟨y.name, _⟩ a.bare = Statement.assign ⟨x.name, _⟩ e.bare
      rw [hy, ha]
    · obtain ⟨var, us, rfl, hvar, h⟩ := then_one_iff.mp h
      exact statementPhrase_of_assignment hvar h
  | call f es =>
    refine Prints.imp (D := Call) (R := fun st' => st'.bare = (Statement.call f es).bare) ?_
      fun h hbare => ⟨_, statementPhrase_of_call h, hbare⟩
    rw [text_call]
    refine (prints_name hst.1).andThen (fun {y} hy => ?_) fun _ => stops_cons (by decide) _
    refine (prints_symbol (by decide)).andThen (fun _ => ?_) fun _ => trivial
    refine (prints_args hst.2).andThen (fun {as} has => ?_) fun _ => stops_cons (by decide) _
    refine (prints_symbol (by decide)).andThen (fun _ => ?_) fun _ => trivial
    refine (prints_symbol (by decide)).andThen (fun _ => prints_done ?_) fun _ => trivial
    show Statement.call ⟨y.name, _⟩ (as.map Expr.bare)
      = Statement.call ⟨f.name, _⟩ (es.map Expr.bare)
    rw [hy, has]

/-! ## scripts -/

def lineText (st : Statement) : List Char := [' ', ' ', ' ', ' '] ++ st.text.toList ++ ['\n']

theorem prints_line {st : Statement} (hst : st.All Token.IsName Number.IsPlain) :
    Prints AnyText (StatementPhrase exactly) (fun st' => st'.bare = st.bare) (lineText st) := by
  have hindent : Token.Blanks [' ', ' ', ' ', ' '] := List.all_eq_true.mp (by decide)
  have hnewline : Token.Blanks ['\n'] := List.forall_mem_singleton.mpr (by decide)
  exact ((prints_statement hst).after_gap hindent).before_gap hnewline fun _ => trivial

theorem text_script (s : Script) :
    s.text.toList
      = Keyword.function.text.toList ++ ([' '] ++ s.name.name.toList ++ (['('] ++ ([')'] ++
          ([' '] ++ ['\x7b'] ++ (['\n'] ++ s.body.flatMap lineText ++ (['\x7d'] ++ [])))))) := by
  have hbody : (String.join (s.body.map fun st => "    " ++ st.text ++ "\n")).toList
      = s.body.flatMap lineText := by
    rw [String.toList_join, List.flatMap_map]
    refine congrArg (List.flatMap · s.body) (funext fun st => ?_)
    rw [String.toList_append, String.toList_append]
    rfl
  simp [Script.text, Keyword.text, hbody, -String.toList_join]

/-- **A script is printed as a script that is equal to it up to spans.** -/
theorem prints_script {s : Script} (hs : s.All Token.IsName Number.IsPlain) :
    Prints AnyText (ScriptPhrase exactly) (fun s' => s'.bare = s.bare) s.text.toList := by
  have hnewline : Token.Blanks ['\n'] := List.forall_mem_singleton.mpr (by decide)
  have hlines := prints_repeated (F := AnyText) (D := StatementPhrase exactly)
    (fun st hst => prints_line (hs.2 st hst)) (fun st rest => trivial)
  refine Prints.imp (D := Braced) (R := fun s' => s'.bare = s.bare) ?_
    fun h hbare => ⟨_, braced_iff.mp h, hbare⟩
  rw [text_script]
  refine (prints_keyword .function).andThen (fun _ => ?_) fun _ => stops_cons (by decide) _
  refine ((prints_name hs.1).after_gap blanks_space).andThen (fun {y} hy => ?_)
    fun _ => stops_cons (by decide) _
  refine (prints_symbol (by decide)).andThen (fun _ => ?_) fun _ => trivial
  refine (prints_symbol (by decide)).andThen (fun _ => ?_) fun _ => trivial
  refine ((prints_symbol (by decide)).after_gap blanks_space).andThen (fun _ => ?_)
    fun _ => trivial
  refine (hlines.after_gap hnewline).andThen (fun {body} hbody => ?_) fun _ => trivial
  refine (prints_symbol (by decide)).andThen (fun _ => prints_done ?_) fun _ => trivial
  show Script.mk ⟨y.name, _⟩ (body.map Statement.bare) = Script.mk ⟨s.name.name, _⟩ _
  rw [hy, hbody]

end Scriptlet.Parser
