import Conformance.Proofs.Source.BlockComments
import Conformance.Proofs.Validator.Ranges
import Conformance.Source.ImportClause

/-! Import clauses as they are written: a default binding, a namespace binding, named bindings in
braces, and blanks around the punctuation. Reading a written clause gives what it binds. Any other text
can be read as well: wherever its braces are, the slices around them are texts. -/
namespace Conformance

namespace ImportClause

/-- The punctuation of a clause. -/
def marks : List Char := [',', '\x7b', '\x7d', '*']

/-- The name of a binding. -/
structure Name where
  chars : List Char
  nonempty : chars ≠ []
  solid : ∀ c ∈ chars, Chars.isBlank c = false
  plain : ∀ c ∈ chars, c ∉ marks
  notType : chars ≠ ['t', 'y', 'p', 'e']

def Name.text (n : Name) : String := String.ofList n.chars

/-- A binding in braces: `name`, `name as other`, `type name` or `type name as other`. -/
structure NamedBinding where
  name : Name
  other : Option Name := none
  isType : Bool := false

/-- What a clause binds. -/
structure Bindings where
  byDefault : Option Name := none
  whole : Option Name := none
  named : List NamedBinding := []

/-- What is recorded of bindings: of a named one, the name that the module exports. -/
def Bindings.decl (b : Bindings) : ImportDecl where
  defaultImport := b.byDefault.map Name.text
  namespaceImport := b.whole.map Name.text
  namedImports := b.named.map fun n => n.name.text

section Writing

def Blanks (s : List Char) : Prop := ∀ c ∈ s, Chars.isBlank c = true

theorem blanks_nil : Blanks [] := fun _ member => absurd member List.not_mem_nil

theorem blanks_cons {c : Char} {s : List Char} (blank : Chars.isBlank c = true) (rest : Blanks s) :
    Blanks (c :: s) :=
  List.forall_mem_cons.2 ⟨blank, rest⟩

/-- A text with any number of blanks around it. -/
def Spaced (inner s : List Char) : Prop :=
  ∃ before after, Blanks before ∧ Blanks after ∧ s = before ++ inner ++ after

theorem Spaced.self (s : List Char) : Spaced s s := ⟨[], [], blanks_nil, blanks_nil, by simp⟩

/-- A name, and another one that it goes by behind `as`. -/
inductive WritesName (name : Name) : Option Name → List Char → Prop where
  | plain : WritesName name none name.chars
  | renamed {before after : List Char} (other : Name) (leading : Blanks before)
      (trailing : Blanks after) :
      WritesName name (some other)
        (name.chars ++ (before ++ [' ', 'a', 's', ' '] ++ (after ++ other.chars)))

/-- One binding in braces. The word `type` has its space behind it; more blanks may follow, save where
what comes next is `as` with another name. -/
inductive WritesNamed : NamedBinding → List Char → Prop where
  | value {name : Name} {other : Option Name} {s : List Char} (text : WritesName name other s) :
      WritesNamed { name, other } s
  | type {name : Name} {other : Option Name} {s gap : List Char} (text : WritesName name other s)
      (blanks : Blanks gap) (near : name.chars = ['a', 's'] → other = none ∨ gap = []) :
      WritesNamed { name, other, isType := true } (['t', 'y', 'p', 'e', ' '] ++ (gap ++ s))

/-- Bindings between commas; the last one may have a comma behind it. -/
inductive WritesList : List NamedBinding → List Char → Prop where
  | none {s : List Char} (blanks : Blanks s) : WritesList [] s
  | last {n : NamedBinding} {item s : List Char} (text : WritesNamed n item) (spaced : Spaced item s) :
      WritesList [n] s
  | next {n : NamedBinding} {item s : List Char} {ns : List NamedBinding} {t : List Char}
      (text : WritesNamed n item) (spaced : Spaced item s) (rest : WritesList ns t) :
      WritesList (n :: ns) (s ++ ',' :: t)

/-- Bindings in braces. -/
def Braced (ns : List NamedBinding) (s : List Char) : Prop :=
  ∃ inside, WritesList ns inside ∧ s = '\x7b' :: inside ++ ['\x7d']

/-- The binding of a whole module, `* as name`. -/
def Starred (name : Name) (s : List Char) : Prop :=
  ∃ before after, Blanks before ∧ Blanks after ∧
    s = '*' :: (before ++ (['a', 's', ' '] ++ after ++ name.chars))

/-- A clause with its bindings, in one of five forms. -/
inductive Written : Bindings → List Char → Prop where
  | byDefault {d : Name} {s : List Char} (spaced : Spaced d.chars s) : Written { byDefault := d } s
  | whole {n : Name} {star s : List Char} (text : Starred n star) (spaced : Spaced star s) :
      Written { whole := n } s
  | named {ns : List NamedBinding} {braces s : List Char} (text : Braced ns braces)
      (spaced : Spaced braces s) : Written { named := ns } s
  | defaultNamed {d : Name} {ns : List NamedBinding} {s braces t : List Char} (first : Spaced d.chars s)
      (text : Braced ns braces) (second : Spaced braces t) :
      Written { byDefault := d, named := ns } (s ++ ',' :: t)
  | defaultWhole {d n : Name} {s star t : List Char} (first : Spaced d.chars s) (text : Starred n star)
      (second : Spaced star t) : Written { byDefault := d, whole := n } (s ++ ',' :: t)

end Writing

section Marks

theorem Name.not_mem (n : Name) {c : Char} (mark : c ∈ marks) : c ∉ n.chars :=
  fun member => n.plain c member mark

theorem solid_mark {c : Char} (mark : c ∈ marks) : Chars.isBlank c = false := by
  simp only [marks, List.mem_cons, List.not_mem_nil, or_false] at mark
  rcases mark with rfl | rfl | rfl | rfl <;> rfl

/-- The words of a clause are free of marks. -/
theorem not_mem_word {c : Char} (mark : c ∈ marks) :
    c ∉ [' ', 'a', 's', ' '] ∧ c ∉ ['t', 'y', 'p', 'e', ' '] := by
  simp only [marks, List.mem_cons, List.not_mem_nil, or_false] at mark
  rcases mark with rfl | rfl | rfl | rfl <;> simp

theorem Spaced.not_mem {inner s : List Char} (spaced : Spaced inner s) {c : Char}
    (solid : Chars.isBlank c = false) (absent : c ∉ inner) : c ∉ s := by
  obtain ⟨before, after, leading, trailing, rfl⟩ := spaced
  simp [absent, Chars.not_mem_of_blank leading solid, Chars.not_mem_of_blank trailing solid]

theorem WritesName.not_mem {name : Name} {other : Option Name} {s : List Char}
    (text : WritesName name other s) {c : Char} (mark : c ∈ marks) : c ∉ s := by
  have solid := solid_mark mark
  cases text with
  | plain => exact name.not_mem mark
  | renamed other leading trailing =>
    simp only [List.mem_append, not_or]
    exact ⟨name.not_mem mark, ⟨Chars.not_mem_of_blank leading solid, (not_mem_word mark).1⟩,
      Chars.not_mem_of_blank trailing solid, other.not_mem mark⟩

theorem WritesNamed.not_mem {n : NamedBinding} {s : List Char} (text : WritesNamed n s) {c : Char}
    (mark : c ∈ marks) : c ∉ s := by
  cases text with
  | value text => exact text.not_mem mark
  | type text blanks =>
    simp only [List.mem_append, not_or]
    exact ⟨(not_mem_word mark).2, Chars.not_mem_of_blank blanks (solid_mark mark), text.not_mem mark⟩

end Marks

section Trimming

theorem trim_blanks {s : List Char} (blanks : Blanks s) : Chars.trim s = [] :=
  List.isEmpty_iff.1 (Chars.isEmpty_trim_iff.2 blanks)

theorem Spaced.trim {inner s : List Char} (spaced : Spaced inner s) :
    Chars.trim s = Chars.trim inner := by
  obtain ⟨before, after, leading, trailing, rfl⟩ := spaced
  exact Chars.trim_padded leading trailing inner

private theorem trim_solid {s : List Char} (solid : ∀ c ∈ s, Chars.isBlank c = false) :
    Chars.trim s = s := by
  have whole {t : List Char} (solid : ∀ c ∈ t, Chars.isBlank c = false) :
      t.dropWhile Chars.isBlank = t := by
    cases t with
    | nil => rfl
    | cons c t => exact Chars.trimStart_cons (solid c List.mem_cons_self) t
  rw [Chars.trim, Chars.trimEnd, Chars.trimStart, whole solid, whole (by simpa using solid),
    List.reverse_reverse]

theorem Name.trim (n : Name) : Chars.trim n.chars = n.chars := trim_solid n.solid

/-- A text is trimmed if what it starts with and what it ends with are. -/
theorem trim_between {first last : List Char} (given : first ≠ []) (given' : last ≠ [])
    (trimmed : Chars.trim first = first) (trimmed' : Chars.trim last = last) (middle : List Char) :
    Chars.trim (first ++ (middle ++ last)) = first ++ (middle ++ last) := by
  rw [Chars.trim, Chars.trimStart_append given (Chars.trimStart_eq_self trimmed), ← List.append_assoc,
    Chars.trimEnd_append given' (Chars.trimEnd_eq_self trimmed')]

end Trimming

section Pieces

/-- The parts between commas, read one by one, without those that come to nothing. -/
def pieces (read : List Char → List Char) (s : List Char) : List (List Char) :=
  ((Chars.splitOn ',' s).map read).filter (· ≠ [])

variable {read : List Char → List Char} {s : List Char}

theorem pieces_single (single : ',' ∉ s) : pieces read s = [read s].filter (· ≠ []) := by
  have parts : Chars.splitOn ',' s = [s] := by
    rw [Chars.splitOn_eq]
    exact List.splitOn_eq_singleton single
  rw [pieces, parts]
  rfl

theorem pieces_append (single : ',' ∉ s) (t : List Char) :
    pieces read (s ++ ',' :: t) = pieces read s ++ pieces read t := by
  rw [pieces_single single, pieces, Chars.splitOn_append single, List.map_cons, ← List.singleton_append,
    List.filter_append]
  rfl

end Pieces

section Named

/-- A text goes on after a character that is not the start of ` as `. -/
theorem beforeAs_cons {c : Char} {s : List Char}
    (absent : Chars.strip? [' ', 'a', 's', ' '] (c :: s) = none) :
    beforeAs (c :: s) = c :: beforeAs s := by
  rw [beforeAs, beforeAs, Chars.cut?, absent]
  cases Chars.cut? [' ', 'a', 's', ' '] s <;> rfl

theorem beforeAs_word {word : List Char} (solid : ∀ c ∈ word, Chars.isBlank c = false) (s : List Char) :
    beforeAs (word ++ s) = word ++ beforeAs s := by
  induction word with
  | nil => rfl
  | cons c word ih =>
    obtain ⟨first, later⟩ := List.forall_mem_cons.1 solid
    have other : ' ' ≠ c := by
      rintro rfl
      cases first
    rw [List.cons_append, beforeAs_cons (by simp [Chars.strip?, other]), ih later, List.cons_append]

theorem strip?_of_blank {lead s : List Char} {a c : Char} (solid : Chars.isBlank a = false)
    (blank : Chars.isBlank c = true) : Chars.strip? (a :: lead) (c :: s) = none := by
  refine if_neg ?_
  rintro rfl
  exact Bool.false_ne_true (solid.symm.trans blank)

theorem beforeAs_gap {gap s : List Char} (blanks : Blanks gap)
    (absent : Chars.strip? ['a', 's', ' '] s = none) : beforeAs (gap ++ s) = gap ++ beforeAs s := by
  induction gap with
  | nil => rfl
  | cons c gap ih =>
    obtain ⟨-, later⟩ := List.forall_mem_cons.1 blanks
    have inside : Chars.strip? ['a', 's', ' '] (gap ++ s) = none := by
      cases gap with
      | nil => exact absent
      | cons d gap => exact strip?_of_blank rfl (later d List.mem_cons_self)
    have here : Chars.strip? [' ', 'a', 's', ' '] (c :: (gap ++ s)) = none := by
      rw [Chars.strip?, inside, ite_self]
    rw [List.cons_append, beforeAs_cons here, ih later, List.cons_append]

variable {name : Name} {other : Option Name} {s : List Char}

theorem WritesName.beforeAs (text : WritesName name other s) :
    ∃ gap, Blanks gap ∧ beforeAs s = name.chars ++ gap := by
  cases text with
  | plain =>
    have whole := beforeAs_word name.solid []
    rw [List.append_nil] at whole
    exact ⟨[], blanks_nil, whole⟩
  | @renamed before after other leading trailing =>
    refine ⟨before, leading, ?_⟩
    rw [beforeAs_word name.solid, List.append_assoc, beforeAs_gap leading rfl]
    exact congrArg (name.chars ++ ·) (List.append_nil before)

/-- The name is the first word. -/
theorem WritesName.first_word (text : WritesName name other s) {word rest : List Char}
    (solid : ∀ c ∈ word, Chars.isBlank c = false) (starts : s = word ++ ' ' :: rest) :
    name.chars = word ∧ other ≠ none := by
  have wordFirst : (Chars.spanToken s).1 = word := by
    rw [starts, Chars.spanToken_append (by simpa using solid) rfl]
  cases text with
  | plain =>
    have blank := name.solid ' ' (by simp [starts])
    cases blank
  | @renamed before after other leading trailing =>
    refine ⟨?_, by simp⟩
    rw [← wordFirst]
    cases before with
    | nil => rw [List.nil_append, List.cons_append, Chars.spanToken_append (by simpa using name.solid) rfl]
    | cons c before =>
      rw [List.cons_append, List.cons_append,
        Chars.spanToken_append (by simpa using name.solid) (leading c List.mem_cons_self)]

theorem WritesName.trimmed (text : WritesName name other s) : s ≠ [] ∧ Chars.trim s = s := by
  cases text with
  | plain => exact ⟨name.nonempty, name.trim⟩
  | @renamed before after other leading trailing =>
    refine ⟨by simp, ?_⟩
    rw [← List.append_assoc (before ++ _)]
    exact trim_between name.nonempty other.nonempty name.trim other.trim _

theorem WritesNamed.trimmed {n : NamedBinding} (text : WritesNamed n s) : Chars.trim s = s := by
  cases text with
  | value text => exact text.trimmed.2
  | type text blanks =>
    obtain ⟨given, trimmed⟩ := text.trimmed
    have word : Chars.trim ['t', 'y', 'p', 'e'] = ['t', 'y', 'p', 'e'] := by decide
    exact trim_between (List.cons_ne_nil _ _) given word trimmed (' ' :: _)

theorem dropTypeWords_of_none (absent : Chars.strip? ['t', 'y', 'p', 'e', ' '] s = none) (fuel : Nat) :
    dropTypeWords fuel s = s := by
  cases fuel with
  | zero => rfl
  | succ fuel => rw [dropTypeWords, absent]

theorem WritesName.no_type_word (text : WritesName name other s) :
    Chars.strip? ['t', 'y', 'p', 'e', ' '] s = none := by
  refine Option.eq_none_iff_forall_ne_some.2 fun rest stripped => ?_
  have starts : s = ['t', 'y', 'p', 'e'] ++ ' ' :: rest :=
    (Chars.strip?_eq_some stripped).trans (by simp)
  exact name.notType (text.first_word (by simp [Chars.isBlank]) starts).1

theorem WritesName.no_as_word (text : WritesName name other s)
    (near : name.chars = ['a', 's'] → other = none) : Chars.strip? ['a', 's', ' '] s = none := by
  refine Option.eq_none_iff_forall_ne_some.2 fun rest stripped => ?_
  have starts : s = ['a', 's'] ++ ' ' :: rest :=
    (Chars.strip?_eq_some stripped).trans (by simp)
  obtain ⟨same, goes⟩ := text.first_word (by simp [Chars.isBlank]) starts
  exact goes (near same)

/-- A written binding is read for its name. -/
private theorem namedBinding_written {n : NamedBinding} {item : List Char}
    (text : WritesNamed n item) (spaced : Spaced item s) : namedBinding s = n.name.chars := by
  rw [namedBinding, spaced.trim, text.trimmed]
  cases text with
  | @value name other item text =>
    obtain ⟨gap, blanks, before⟩ := text.beforeAs
    rw [dropTypeWords_of_none text.no_type_word, before]
    exact (Spaced.trim ⟨[], gap, blanks_nil, blanks, rfl⟩).trans name.trim
  | @type name other item gap text blanks near =>
    obtain ⟨gap', blanks', before⟩ := text.beforeAs
    have noType : Chars.strip? ['t', 'y', 'p', 'e', ' '] (gap ++ item) = none := by
      cases gap with
      | nil => exact text.no_type_word
      | cons c gap => exact strip?_of_blank rfl (blanks c List.mem_cons_self)
    have dropped : dropTypeWords (['t', 'y', 'p', 'e', ' '] ++ (gap ++ item)).length
        (['t', 'y', 'p', 'e', ' '] ++ (gap ++ item)) = gap ++ item :=
      dropTypeWords_of_none noType _
    have named : beforeAs (gap ++ item) = gap ++ beforeAs item := by
      by_cases apart : gap = []
      · rw [apart]
        rfl
      · exact beforeAs_gap blanks (text.no_as_word fun same => (near same).resolve_right apart)
    rw [dropped, named, before, ← List.append_assoc]
    exact (Spaced.trim ⟨gap, gap', blanks, blanks', rfl⟩).trans name.trim

private theorem pieces_written {ns : List NamedBinding} (text : WritesList ns s) :
    pieces namedBinding s = ns.map fun n => n.name.chars := by
  have single {n : NamedBinding} {item s : List Char} (text : WritesNamed n item)
      (spaced : Spaced item s) : ',' ∉ s ∧ pieces namedBinding s = [n.name.chars] := by
    have free : ',' ∉ s := spaced.not_mem rfl (text.not_mem (by decide))
    refine ⟨free, ?_⟩
    rw [pieces_single free, namedBinding_written text spaced]
    exact List.filter_cons_of_pos (by simpa using n.name.nonempty)
  induction text with
  | none blanks =>
    rw [pieces_single (Chars.not_mem_of_blank blanks rfl), namedBinding, trim_blanks blanks]
    rfl
  | last text spaced => exact (single text spaced).2
  | next text spaced rest ih =>
    obtain ⟨free, here⟩ := single text spaced
    rw [pieces_append free, here, ih]
    rfl

end Named

section Clauses

/-- Part of what stands before the braces: trimmed, and without the marks that end it. -/
structure IsPart (s : List Char) : Prop where
  nonempty : s ≠ []
  trimmed : Chars.trim s = s
  noComma : ',' ∉ s
  noBrace : '\x7b' ∉ s

theorem Name.isPart (n : Name) : IsPart n.chars where
  nonempty := n.nonempty
  trimmed := n.trim
  noComma := n.not_mem (by decide)
  noBrace := n.not_mem (by decide)

theorem Starred.not_mem {n : Name} {star : List Char} (text : Starred n star) {c : Char}
    (mark : c ∈ marks) (other : c ≠ '*') : c ∉ star := by
  obtain ⟨before, after, leading, trailing, rfl⟩ := text
  have solid := solid_mark mark
  have word : c ∉ ['a', 's', ' '] :=
    fun member => (not_mem_word mark).1 (List.mem_cons_of_mem ' ' member)
  rw [List.mem_cons, List.mem_append, List.mem_append, List.mem_append]
  simp only [not_or]
  exact ⟨other, Chars.not_mem_of_blank leading solid, ⟨word, Chars.not_mem_of_blank trailing solid⟩,
    n.not_mem mark⟩

theorem Starred.isPart {n : Name} {star : List Char} (text : Starred n star) : IsPart star where
  nonempty := by
    obtain ⟨before, after, -, -, rfl⟩ := text
    exact List.cons_ne_nil _ _
  trimmed := by
    obtain ⟨before, after, -, -, rfl⟩ := text
    have star : Chars.trim ['*'] = ['*'] := by decide
    have whole := trim_between (List.cons_ne_nil _ _) n.nonempty star n.trim
      (before ++ (['a', 's', ' '] ++ after))
    simpa using whole
  noComma := text.not_mem (by decide) (by decide)
  noBrace := text.not_mem (by decide) (by decide)

theorem Braced.trimmed {ns : List NamedBinding} {braces : List Char} (text : Braced ns braces) :
    Chars.trim braces = braces := by
  obtain ⟨inside, -, rfl⟩ := text
  have opening : Chars.trim ['\x7b'] = ['\x7b'] := by decide
  have closing : Chars.trim ['\x7d'] = ['\x7d'] := by decide
  exact trim_between (List.cons_ne_nil _ _) (List.cons_ne_nil _ _) opening closing inside

private theorem pieces_blanks {s : List Char} (blanks : Blanks s) : pieces Chars.trim s = [] := by
  rw [pieces_single (Chars.not_mem_of_blank blanks rfl), trim_blanks blanks]
  rfl

theorem pieces_part {part s : List Char} (is : IsPart part) (spaced : Spaced part s) :
    pieces Chars.trim s = [part] := by
  rw [pieces_single (spaced.not_mem rfl is.noComma), spaced.trim, is.trimmed]
  exact List.filter_cons_of_pos (by simpa using is.nonempty)

/-- Two texts around a comma, trimmed at the outer ends. -/
theorem trim_joined {x y s t : List Char} (first : Spaced x s) (second : Spaced y t) (part : IsPart x)
    (nonempty : y ≠ []) (trimmed : Chars.trim y = y) :
    ∃ s' lead, Spaced x s' ∧ Blanks lead ∧ Chars.trim (s ++ ',' :: t) = s' ++ ',' :: (lead ++ y) := by
  obtain ⟨before, gap, leading, blanks, rfl⟩ := first
  obtain ⟨lead, after, blanks', trailing, rfl⟩ := second
  refine ⟨x ++ gap, lead, ⟨[], gap, blanks_nil, blanks, rfl⟩, blanks', ?_⟩
  have inner := trim_between part.nonempty nonempty part.trimmed trimmed (gap ++ ',' :: lead)
  have padded := Chars.trim_padded leading trailing (x ++ ((gap ++ ',' :: lead) ++ y))
  rw [inner] at padded
  simpa using padded

/-- What the text before the braces and the text inside them bind. -/
def bound (parts : List Char × Option (List Char)) : ImportDecl :=
  let before := (pieces Chars.trim parts.1).foldl addBinding {}
  match parts.2 with
  | some inside => { before with namedImports := names namedBinding inside }
  | none => before

theorem parse_eq (clause : List Char) : parse clause = bound (split (Chars.trim clause)) := rfl

theorem addBinding_name (i : ImportDecl) (n : Name) :
    addBinding i n.chars = { i with defaultImport := some n.text } := by
  unfold addBinding
  split
  · rename_i rest star
    have absent : '*' ∉ n.chars := n.not_mem (by decide)
    simp [star] at absent
  · rfl

theorem addBinding_starred (i : ImportDecl) {n : Name} {star : List Char} (text : Starred n star) :
    addBinding i star = { i with namespaceImport := some n.text } := by
  obtain ⟨before, after, leading, trailing, rfl⟩ := text
  have word : Chars.trim ['a', 's'] = ['a', 's'] := by decide
  have trimmed : Chars.trim (before ++ (['a', 's', ' '] ++ after ++ n.chars)) =
      ['a', 's'] ++ ((' ' :: after) ++ n.chars) := by
    rw [← trim_between (List.cons_ne_nil _ _) n.nonempty word n.trim (' ' :: after)]
    exact Spaced.trim ⟨before, [], leading, blanks_nil, by simp⟩
  have name : Chars.trim ((' ' :: after) ++ n.chars) = n.chars := by
    refine (Spaced.trim ⟨' ' :: after, [], ?_, blanks_nil, by simp⟩).trans n.trim
    exact List.forall_mem_cons.2 ⟨rfl, trailing⟩
  rw [addBinding, trimmed, Chars.strip?_eq_some_iff.2 rfl, Option.map_some, name]
  rfl

theorem split_plain {s : List Char} (absent : '\x7b' ∉ s) : split s = (s, none) := by
  have none : Chars.cut? ['\x7b'] s = none := by
    induction s with
    | nil => rfl
    | cons c s ih =>
      obtain ⟨other, absent⟩ := List.ne_and_not_mem_of_not_mem_cons absent
      simp [Chars.cut?, Chars.strip?, other, ih absent]
  rw [split, none]

theorem split_braced {head : List Char} (absent : '\x7b' ∉ head) (inside : List Char) :
    split (head ++ '\x7b' :: (inside ++ ['\x7d'])) = (head, some inside) := by
  rw [split, Chars.cut?_append absent]
  dsimp only
  rw [Chars.cutLast?_append List.not_mem_nil]

/-- A clause without braces binds what its parts say. -/
theorem parse_plain {clause core : List Char} (trimmed : Chars.trim clause = core)
    (absent : '\x7b' ∉ core) : parse clause = (pieces Chars.trim core).foldl addBinding {} := by
  rw [parse_eq, trimmed, split_plain absent]
  rfl

/-- The named bindings in braces add to what stands before them. -/
theorem parse_braced {clause head inside : List Char} {ns : List NamedBinding}
    (trimmed : Chars.trim clause = head ++ '\x7b' :: (inside ++ ['\x7d'])) (absent : '\x7b' ∉ head)
    (list : WritesList ns inside) : parse clause =
      { (pieces Chars.trim head).foldl addBinding {} with
        namedImports := ns.map fun n => n.name.text } := by
  have recorded : names namedBinding inside = (pieces namedBinding inside).map String.ofList := rfl
  have read : names namedBinding inside = ns.map fun n => n.name.text := by
    rw [recorded, pieces_written list, List.map_map]
    rfl
  rw [parse_eq, trimmed, split_braced absent, ← read]
  rfl

/-- A written clause is read for what it binds. -/
theorem parse_written {b : Bindings} {clause : List Char} (written : Written b clause) :
    parse clause = b.decl := by
  cases written with
  | @byDefault d s spaced =>
    rw [parse_plain (spaced.trim.trans d.trim) d.isPart.noBrace, pieces_part d.isPart (.self _)]
    exact addBinding_name {} d
  | @whole n star s text spaced =>
    have part := text.isPart
    rw [parse_plain (spaced.trim.trans part.trimmed) part.noBrace, pieces_part part (.self _)]
    exact addBinding_starred {} text
  | named text spaced =>
    have trimmed := spaced.trim.trans text.trimmed
    obtain ⟨inside, list, rfl⟩ := text
    exact parse_braced trimmed List.not_mem_nil list
  | @defaultNamed d ns s braces t first text second =>
    have trimmed := text.trimmed
    obtain ⟨inside, list, rfl⟩ := text
    obtain ⟨s', lead, spaced, blanks, joined⟩ :=
      trim_joined first second d.isPart (List.cons_ne_nil _ _) trimmed
    have braces : s' ++ ',' :: (lead ++ ('\x7b' :: inside ++ ['\x7d'])) =
        (s' ++ ',' :: lead) ++ '\x7b' :: (inside ++ ['\x7d']) := by simp
    have noBrace : '\x7b' ∉ s' ++ ',' :: lead := by
      have gap : '\x7b' ∉ lead := Chars.not_mem_of_blank blanks rfl
      simp [spaced.not_mem rfl d.isPart.noBrace, gap]
    have parts : pieces Chars.trim (s' ++ ',' :: lead) = [d.chars] := by
      rw [pieces_append (spaced.not_mem rfl d.isPart.noComma), pieces_part d.isPart spaced,
        pieces_blanks blanks, List.append_nil]
    rw [parse_braced (joined.trans braces) noBrace list, parts, List.foldl_cons, addBinding_name]
    rfl
  | @defaultWhole d n s star t first text second =>
    have part := text.isPart
    obtain ⟨s', lead, spaced, blanks, joined⟩ :=
      trim_joined first second d.isPart part.nonempty part.trimmed
    have second' : Spaced star (lead ++ star) := ⟨lead, [], blanks, blanks_nil, by simp⟩
    have noBrace : '\x7b' ∉ s' ++ ',' :: (lead ++ star) := by
      simp [spaced.not_mem rfl d.isPart.noBrace, second'.not_mem rfl part.noBrace]
    have parts : pieces Chars.trim (s' ++ ',' :: (lead ++ star)) = [d.chars, star] := by
      rw [pieces_append (spaced.not_mem rfl d.isPart.noComma), pieces_part d.isPart spaced,
        pieces_part part second']
      rfl
    rw [parse_plain joined noBrace, parts, List.foldl_cons, addBinding_name, List.foldl_cons,
      addBinding_starred _ text]
    rfl

end Clauses

section Slices

/-- The text between two byte offsets; nothing if they stand the wrong way round, past the end or
inside a character. -/
def slice? (first last : Nat) (s : List Char) : Option (List Char) :=
  if first ≤ last then do
    let (upTo, _) ← Chars.splitAtByte? last s
    let (_, inside) ← Chars.splitAtByte? first upTo
    return inside
  else none

/-- Where the text inside the braces ends: at the last closing brace or the end of the clause, but not
before the opening brace. -/
def endOfInside (opening : Nat) (clause : List Char) : Nat :=
  max ((Ranged.lastOffsetOf? '\x7d' clause).getD (String.ofList clause).utf8ByteSize) (opening + 1)

/-- The texts before and inside the braces, cut out between byte offsets. -/
def split? (clause : List Char) : Option (List Char × Option (List Char)) :=
  match Chars.offsetOf? '\x7b' clause with
  | none => some (clause, none)
  | some opening => do
    let head ← slice? 0 opening clause
    let inside ← slice? (opening + 1) (endOfInside opening clause) clause
    return (head, some inside)

/-- What a clause binds, unless one of its slices is no text. -/
def parse? (clause : List Char) : Option ImportDecl := (split? (Chars.trim clause)).map bound

theorem utf8ByteSize_append (s t : List Char) : (String.ofList (s ++ t)).utf8ByteSize =
    (String.ofList s).utf8ByteSize + (String.ofList t).utf8ByteSize := by
  rw [String.ofList_append, String.utf8ByteSize_append]

/-- Between two places of a text there is a text. -/
theorem slice?_between (before inside after : List Char) :
    slice? (String.ofList before).utf8ByteSize (String.ofList (before ++ inside)).utf8ByteSize
      (before ++ inside ++ after) = some inside := by
  have ordered : (String.ofList before).utf8ByteSize ≤ (String.ofList (before ++ inside)).utf8ByteSize := by
    rw [utf8ByteSize_append]
    exact Nat.le_add_right _ _
  rw [slice?, if_pos ordered, Chars.splitAtByte?_append]
  dsimp only [Option.bind_eq_bind, Option.bind_some]
  rw [Chars.splitAtByte?_append]
  rfl

theorem lastOffsetOf?_append (sep : Char) (s t : List Char) :
    Ranged.lastOffsetOf? sep (s ++ t) =
      ((Ranged.lastOffsetOf? sep t).map ((String.ofList s).utf8ByteSize + ·)).or
        (Ranged.lastOffsetOf? sep s) := by
  induction s with
  | nil => cases found : Ranged.lastOffsetOf? sep t <;> simp [found, Ranged.lastOffsetOf?]
  | cons c s ih =>
    rw [List.cons_append, Ranged.lastOffsetOf?, ih, Ranged.lastOffsetOf?, Chars.utf8ByteSize_cons]
    cases found : Ranged.lastOffsetOf? sep t with
    | none => rfl
    | some offset => simp [Nat.add_assoc]

/-- The last closing brace is looked for behind the opening one first. -/
private theorem lastOffsetOf?_opened (before after : List Char) :
    Ranged.lastOffsetOf? '\x7d' (before ++ '\x7b' :: after) =
      ((Ranged.lastOffsetOf? '\x7d' after).map ((String.ofList before).utf8ByteSize + 1 + ·)).or
        (Ranged.lastOffsetOf? '\x7d' before) := by
  have opening : Ranged.lastOffsetOf? '\x7d' ['\x7b'] = none := rfl
  rw [List.append_cons, lastOffsetOf?_append, lastOffsetOf?_append, opening, utf8ByteSize_append]
  rfl

/-- Behind the opening brace, the text inside the braces comes first. -/
private theorem inside_at_offset {before : List Char} (absent : '\x7b' ∉ before)
    (after : List Char) :
    ∃ inside rest, after = inside ++ rest ∧
      split (before ++ '\x7b' :: after) = (before, some inside) ∧
      endOfInside (String.ofList before).utf8ByteSize (before ++ '\x7b' :: after) =
        (String.ofList before).utf8ByteSize + 1 + (String.ofList inside).utf8ByteSize := by
  rw [split, Chars.cut?_append absent, endOfInside, lastOffsetOf?_opened]
  dsimp only
  -- The last closing brace stands behind the opening one, only before it, or nowhere.
  rcases Ranged.lastOffsetOf?_cases '\x7d' after with
    ⟨none, unfound⟩ | ⟨inside, rest, rfl, last, found⟩
  · rw [unfound, Chars.cutLast?_eq_none none, Option.map_none, Option.none_or]
    rcases Ranged.lastOffsetOf?_cases '\x7d' before with ⟨free, unfound⟩ | ⟨left, right, rfl, -, found⟩
    · have whole : (String.ofList (before ++ '\x7b' :: after)).utf8ByteSize =
          (String.ofList before).utf8ByteSize + (1 + (String.ofList after).utf8ByteSize) := by
        rw [utf8ByteSize_append, Chars.utf8ByteSize_cons]
        rfl
      refine ⟨after, [], (List.append_nil after).symm, by simp [free], ?_⟩
      rw [unfound, Option.getD_none, whole]
      omega
    · have early := utf8ByteSize_append left ('\x7d' :: right)
      refine ⟨[], after, rfl, by simp, ?_⟩
      rw [found, Option.getD_some, Nat.max_eq_right (by omega)]
      rfl
  · refine ⟨inside, '\x7d' :: rest, rfl, by rw [Chars.cutLast?_append last], ?_⟩
    rw [found, Option.map_some, Option.some_or, Option.getD_some]
    exact Nat.max_eq_left (Nat.le_add_right _ _)

/-- Wherever the braces of a text are, it can be cut before and inside them. -/
theorem split?_eq (clause : List Char) : split? clause = some (split clause) := by
  rcases Chars.offsetOf?_cases '\x7b' clause with ⟨absent, none⟩ | ⟨before, after, rfl, absent, found⟩
  · rw [split?, none, split_plain absent]
  · have head : slice? 0 (String.ofList before).utf8ByteSize (before ++ '\x7b' :: after) = some before :=
      slice?_between [] before ('\x7b' :: after)
    obtain ⟨inside, rest, rfl, parts, ending⟩ := inside_at_offset absent after
    have start : (String.ofList (before ++ ['\x7b'])).utf8ByteSize =
        (String.ofList before).utf8ByteSize + 1 := utf8ByteSize_append before ['\x7b']
    have cut := slice?_between (before ++ ['\x7b']) inside rest
    rw [utf8ByteSize_append _ inside, start, ← ending, List.append_assoc, List.append_assoc] at cut
    rw [split?, found, parts]
    dsimp only [Option.bind_eq_bind]
    rw [head, Option.bind_some]
    exact congrArg (Option.bind · fun inside => some (before, some inside)) cut

theorem parse?_eq (clause : List Char) : parse? clause = some (parse clause) := by
  rw [parse?, split?_eq, parse_eq]
  rfl

end Slices

/-- A written clause gives back its default binding, its namespace binding and the names that its other
bindings have in the module, in order. No slice fails on any text, written as a clause or not. -/
theorem written_clauses_are_read (clause : List Char) :
    (∀ b, Written b clause → parse clause = b.decl) ∧ parse? clause = some (parse clause) :=
  ⟨fun _ written => parse_written written, parse?_eq clause⟩

/-- Names that are, or begin like, the words of a clause. -/
def asName : Name := ⟨['a', 's'], by simp, by simp [Chars.isBlank], by simp [marks], by simp⟩

def typedName : Name :=
  ⟨['t', 'y', 'p', 'e', 'd'], by simp, by simp [Chars.isBlank], by simp [marks], by simp⟩

def keywords : Bindings where
  byDefault := asName
  named := [{ name := asName, other := typedName, isType := true }, { name := typedName, other := asName }]

theorem clause_of_keywords_is_read :
    let clause := "\tas , \x7b type as as typed,typed  as  as \x7d  ".toList
    Written keywords clause ∧
      parse clause = { defaultImport := some "as", namedImports := ["as", "typed"] } ∧
      parse? "\x7dé\x7b".toList = some (parse "\x7dé\x7b".toList) := by
  intro clause
  have spaces : Blanks [' '] := blanks_cons rfl blanks_nil
  have first : WritesNamed { name := asName, other := typedName, isType := true }
      "type as as typed".toList :=
    .type (.renamed typedName blanks_nil blanks_nil) blanks_nil fun _ => .inr rfl
  have second : WritesNamed { name := typedName, other := asName } "typed  as  as".toList :=
    .value (.renamed asName spaces spaces)
  have list : WritesList keywords.named " type as as typed,typed  as  as ".toList :=
    .next first ⟨[' '], [], spaces, blanks_nil, rfl⟩
      (.last second ⟨[], [' '], blanks_nil, spaces, rfl⟩)
  have tab : Blanks ['\t'] := blanks_cons rfl blanks_nil
  have byDefault : Spaced asName.chars "\tas ".toList := ⟨['\t'], [' '], tab, spaces, rfl⟩
  have written : Written keywords clause :=
    .defaultNamed byDefault ⟨_, list, rfl⟩ ⟨[' '], [' ', ' '], spaces, blanks_cons rfl spaces, rfl⟩
  exact ⟨written, (written_clauses_are_read _).1 _ written, (written_clauses_are_read _).2⟩

/-- A second blank behind `type` hides a binding called `as` that goes by another name. -/
example :
    (parse "\x7b type as as x, type  as as y, type  z as as \x7d".toList).namedImports = ["as", "z"] := by
  decide +kernel

end ImportClause

end Conformance
