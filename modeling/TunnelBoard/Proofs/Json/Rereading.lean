import TunnelBoard.Proofs.Json.Numerals
import TunnelBoard.Proofs.Json.Quoting

/-!
# Reading JSON that was written

JSON is read back as the value it stands for, whether it was sent as it is or
put into a script element.  This takes texts that can be written, integers of not
too many digits, different names in each object, and a reader that allows as much
nesting as there is.
-/

namespace TunnelBoard
namespace Json

/-- JSON that is read back by a reader with a limit on its nesting. -/
inductive Readable : Nat → Json → Prop where
  | null {depth : Nat} : Readable depth .null
  | bool {depth : Nat} (b : Bool) : Readable depth (.bool b)
  | int {depth : Nat} {n : Int} (short : IsShort n) : Readable depth (.int n)
  | text {depth : Nat} {t : Text} (isWritable : t.IsWritable) : Readable depth (.text t)
  | array {depth : Nat} {items : List Json} (values : ∀ j ∈ items, Readable depth j) :
      Readable (depth + 1) (.array items)
  | object {depth : Nat} {fields : List (Text × Json)}
      (names : ∀ field ∈ fields, field.1.IsWritable) (nodup : (fields.map Prod.fst).Nodup)
      (values : ∀ field ∈ fields, Readable depth field.2) : Readable (depth + 1) (.object fields)

/-!
# Parts
-/

theorem skipSpace_cons {c : CodePoint} (h : isSpace c = false) (rest : Text) :
    skipSpace (c :: rest) = c :: rest := by
  rw [skipSpace, List.dropWhile_cons, h]
  rfl

/-- What JSON starts with is no space and no end of an array. -/
theorem renderWith_eq_cons (escape : CodePoint → Text) (j : Json) :
    ∃ c rest, j.renderWith escape = c :: rest ∧ isSpace c = false ∧ c ≠ ']' := by
  cases j with
  | null => exact ⟨_, _, rfl, rfl, by decide⟩
  | bool b => cases b <;> exact ⟨_, _, rfl, rfl, by decide⟩
  | int n =>
      rcases ofInt_eq_cons n with ⟨c, rest, hcons, hc⟩
      refine ⟨c, rest, hcons, ?_⟩
      rcases hc with hc | hc
      · subst hc
        exact ⟨rfl, by decide⟩
      · have hne := fun (d : CodePoint) hd => (ne_of_isAsciiDigit (c := d) hc hd).symm
        refine ⟨?_, hne _ rfl⟩
        simp [isSpace, hne ' ' rfl, hne '\t' rfl, hne '\n' rfl, hne '\r' rfl]
  | text t => exact ⟨_, _, rfl, rfl, by decide⟩
  | array items => exact ⟨_, _, rfl, rfl, by decide⟩
  | object fields => exact ⟨_, _, rfl, rfl, by decide⟩

/-!
# Arrays

Every value takes at most two calls for each of its code points, and the items
of an array one call more than the code points between its brackets.
-/

/-- A value is read from what it stands in. -/
def ReadsBack (escape : CodePoint → Text) (depth : Nat) (j : Json) : Prop :=
  ∀ (fuel : Nat) (rest : Text), 2 * (j.renderWith escape).length ≤ fuel → ClosesPart rest →
    readValue fuel depth (j.renderWith escape ++ rest) = .ok (j.toValue, rest)

/-- The items of an array as they stand between its brackets. -/
def itemsText (escape : CodePoint → Text) (items : List Json) : Text :=
  Text.join ", " (renderItems escape items)

theorem itemsText_singleton (escape : CodePoint → Text) (j : Json) :
    itemsText escape [j] = j.renderWith escape := by
  simp [itemsText, Text.join, renderItems, List.intercalate]

theorem itemsText_cons_cons (escape : CodePoint → Text) (first second : Json) (items : List Json) :
    itemsText escape (first :: second :: items) =
      first.renderWith escape ++
        (',' : CodePoint) :: ' ' :: itemsText escape (second :: items) := by
  rw [itemsText, renderItems, renderItems, Text.join_cons_cons, List.append_assoc]
  rfl

theorem itemsText_eq_cons (escape : CodePoint → Text) (first : Json) (items : List Json) :
    ∃ c rest, itemsText escape (first :: items) = c :: rest ∧ isSpace c = false ∧ c ≠ ']' := by
  rcases renderWith_eq_cons escape first with ⟨c, rest, hfirst, hc⟩
  cases items with
  | nil =>
      rw [itemsText_singleton]
      exact ⟨c, rest, hfirst, hc⟩
  | cons second items =>
      rw [itemsText_cons_cons, hfirst]
      exact ⟨c, _, rfl, hc⟩

theorem readItems_itemsText {escape : CodePoint → Text} {depth : Nat} {first : Json}
    {items : List Json} (hread : ∀ j ∈ first :: items, ReadsBack escape depth j) (fuel : Nat)
    (rest : Text) (hfuel : 2 * (itemsText escape (first :: items)).length + 1 ≤ fuel) :
    readItems fuel depth (itemsText escape (first :: items) ++ (']' : CodePoint) :: rest) =
      .ok (itemValues (first :: items), rest) := by
  induction items generalizing first fuel with
  | nil =>
      have hfirst := hread first List.mem_cons_self
      rw [itemsText_singleton] at hfuel ⊢
      cases fuel with
      | zero => omega
      | succ fuel =>
          rw [readItems, hfirst fuel _ (by omega) (closesPart_cons rest (.inr (.inl rfl)))]
          rfl
  | cons second items ih =>
      have hfirst := hread first List.mem_cons_self
      have hrest := ih fun j (hj : j ∈ second :: items) => hread j (List.mem_cons_of_mem _ hj)
      rw [itemsText_cons_cons] at hfuel ⊢
      rw [List.length_append, List.length_cons, List.length_cons] at hfuel
      rw [List.append_assoc, List.cons_append, List.cons_append]
      cases fuel with
      | zero => omega
      | succ fuel =>
          have hskip : skipSpace ((' ' : CodePoint) :: (itemsText escape (second :: items)
              ++ (']' : CodePoint) :: rest)) =
                itemsText escape (second :: items) ++ (']' : CodePoint) :: rest := by
            rcases itemsText_eq_cons escape second items with ⟨c, u, hcons, hc, _⟩
            rw [hcons]
            exact skipSpace_cons hc _
          rw [readItems, hfirst fuel _ (by omega) (closesPart_cons _ (.inl rfl))]
          show (readItems fuel depth (skipSpace (' ' :: _))).bind _ = _
          rw [hskip, hrest fuel (by omega)]
          rfl

/-!
# Objects

The names of an object are different, so no entry takes the place of another.
-/

/-- The fields of an object as they stand between its braces. -/
def fieldsText (escape : CodePoint → Text) (fields : List (Text × Json)) : Text :=
  Text.join ", " (renderFields escape fields)

/-- A field, followed by what stands behind it. -/
def fieldText (escape : CodePoint → Text) (field : Text × Json) (rest : Text) : Text :=
  ('"' : CodePoint) :: (field.1.flatMap escape
    ++ ('"' : CodePoint) :: ':' :: ' ' :: (field.2.renderWith escape ++ rest))

theorem fieldsText_singleton (escape : CodePoint → Text) (field : Text × Json) :
    fieldsText escape [field] = fieldText escape field [] := by
  rcases field with ⟨name, j⟩
  simp [fieldsText, Text.join, renderFields, List.intercalate, fieldText, quote, Text.ofString]

theorem fieldsText_cons_cons (escape : CodePoint → Text) (first second : Text × Json)
    (fields : List (Text × Json)) :
    fieldsText escape (first :: second :: fields) =
      fieldText escape first
        ((',' : CodePoint) :: ' ' :: fieldsText escape (second :: fields)) := by
  rcases first with ⟨name, j⟩
  rw [fieldsText, renderFields, renderFields, Text.join_cons_cons, ← renderFields]
  simp [fieldText, fieldsText, quote, Text.ofString]

theorem fieldsText_eq_cons (escape : CodePoint → Text) (first : Text × Json)
    (fields : List (Text × Json)) :
    ∃ rest, fieldsText escape (first :: fields) = ('"' : CodePoint) :: rest := by
  cases fields with
  | nil => exact ⟨_, fieldsText_singleton escape first⟩
  | cons second fields => exact ⟨_, fieldsText_cons_cons escape first second fields⟩

theorem fieldText_append (escape : CodePoint → Text) (field : Text × Json) (s t : Text) :
    fieldText escape field s ++ t = fieldText escape field (s ++ t) := by
  simp [fieldText]

theorem readFields_fieldText {escape : CodePoint → Text} (hescape : IsFaithful escape)
    {depth : Nat} {field : Text × Json} (hname : field.1.IsWritable)
    (hread : ReadsBack escape depth field.2) (fuel : Nat) (c : CodePoint) (rest : Text)
    (hfuel : 2 * (field.2.renderWith escape).length ≤ fuel)
    (hc : c = ',' ∨ c = ']' ∨ c = '\x7d') :
    readFields (fuel + 1) depth (fieldText escape field (c :: rest)) =
      if c = '\x7d' then .ok ([(.text field.1, field.2.toValue)], rest)
      else if c = ',' then
        (readFields fuel depth (skipSpace rest)).map fun (fields, rest) =>
          ((.text field.1, field.2.toValue) :: fields, rest)
      else .error .malformed := by
  have hcolon : ∀ u : Text, skipSpace ((':' : CodePoint) :: u) = (':' : CodePoint) :: u :=
    skipSpace_cons rfl
  have hspace : skipSpace ((' ' : CodePoint) :: (field.2.renderWith escape ++ c :: rest)) =
      field.2.renderWith escape ++ c :: rest := by
    rcases renderWith_eq_cons escape field.2 with ⟨d, u, hcons, hd, _⟩
    rw [hcons]
    exact skipSpace_cons hd _
  have hclose : skipSpace (c :: rest) = c :: rest := by
    apply skipSpace_cons
    rcases hc with h | h | h <;> subst h <;> rfl
  rw [fieldText, readFields, if_pos rfl, readText?_flatMap hescape hname]
  simp only [orMalformed, bind, Except.bind, hcolon, hspace, if_true,
    hread fuel _ hfuel (closesPart_cons rest hc), hclose]
  split
  · rfl
  split
  · cases readFields fuel depth (skipSpace rest) <;> rfl
  · rfl

theorem readFields_fieldsText {escape : CodePoint → Text} (hescape : IsFaithful escape)
    {depth : Nat} {first : Text × Json} {fields : List (Text × Json)}
    (hnames : ∀ field ∈ first :: fields, field.1.IsWritable)
    (hread : ∀ field ∈ first :: fields, ReadsBack escape depth field.2) (fuel : Nat) (rest : Text)
    (hfuel : 2 * (fieldsText escape (first :: fields)).length + 1 ≤ fuel) :
    readFields fuel depth (fieldsText escape (first :: fields) ++ ('\x7d' : CodePoint) :: rest) =
      .ok (fieldValues (first :: fields), rest) := by
  induction fields generalizing first fuel with
  | nil =>
      have hname := hnames first List.mem_cons_self
      have hfirst := hread first List.mem_cons_self
      rw [fieldsText_singleton] at hfuel ⊢
      rw [fieldText_append, List.nil_append]
      simp only [fieldText, List.length_cons, List.length_append] at hfuel
      cases fuel with
      | zero => omega
      | succ fuel =>
          rw [readFields_fieldText hescape hname hfirst fuel _ rest (by omega) (.inr (.inr rfl)),
            if_pos rfl]
          rfl
  | cons second fields ih =>
      have hname := hnames first List.mem_cons_self
      have hfirst := hread first List.mem_cons_self
      have hrest := ih
        (fun field (h : field ∈ second :: fields) => hnames field (List.mem_cons_of_mem _ h))
        (fun field h => hread field (List.mem_cons_of_mem _ h))
      rw [fieldsText_cons_cons] at hfuel ⊢
      rw [fieldText_append, List.cons_append, List.cons_append]
      simp only [fieldText, List.length_cons, List.length_append] at hfuel
      cases fuel with
      | zero => omega
      | succ fuel =>
          have hskip : skipSpace ((' ' : CodePoint) :: (fieldsText escape (second :: fields)
              ++ ('\x7d' : CodePoint) :: rest)) =
                fieldsText escape (second :: fields) ++ ('\x7d' : CodePoint) :: rest := by
            rcases fieldsText_eq_cons escape second fields with ⟨u, hcons⟩
            rw [hcons]
            exact skipSpace_cons (c := '"') rfl _
          rw [readFields_fieldText hescape hname hfirst fuel _ _ (by omega) (.inl rfl),
            if_neg (by decide), if_pos rfl, hskip, hrest fuel (by omega)]
          rfl

theorem fieldValues_append (fields others : List (Text × Json)) :
    fieldValues (fields ++ others) = fieldValues fields ++ fieldValues others := by
  induction fields with
  | nil => rfl
  | cons field fields ih =>
      rcases field with ⟨name, j⟩
      rw [List.cons_append, fieldValues, fieldValues, ih]
      rfl

theorem insertEntry_fieldValues {name : Text} {known : List (Text × Json)} (v : Value)
    (h : name ∉ known.map Prod.fst) :
    Value.insertEntry (.text name) v (fieldValues known) =
      fieldValues known ++ [(.text name, v)] := by
  induction known with
  | nil => rfl
  | cons field known ih =>
      rcases field with ⟨other, j⟩
      rw [List.map_cons, List.mem_cons, not_or] at h
      have hother : Value.sameKey (.text other) (.text name) = false :=
        decide_eq_false fun heq => h.1 heq.symm
      rw [fieldValues, Value.insertEntry, hother, ih h.2]
      rfl

theorem ofEntries_fieldValues {fields : List (Text × Json)}
    (hnodup : (fields.map Prod.fst).Nodup) :
    Value.ofEntries (fieldValues fields) = .map (fieldValues fields) := by
  have hrun : ∀ rest known : List (Text × Json), ((known ++ rest).map Prod.fst).Nodup →
      (fieldValues rest).foldl (fun entries entry => Value.insertEntry entry.1 entry.2 entries)
          (fieldValues known) = fieldValues (known ++ rest) := by
    intro rest
    induction rest with
    | nil =>
        intro known _
        rw [List.append_nil]
        rfl
    | cons field rest ih =>
        rcases field with ⟨name, j⟩
        intro known hnodup
        have hnew : name ∉ known.map Prod.fst := by
          intro hmem
          rw [List.map_append, List.nodup_append] at hnodup
          exact hnodup.2.2 name hmem name List.mem_cons_self rfl
        have hstep : Value.insertEntry (.text name) j.toValue (fieldValues known) =
            fieldValues (known ++ [(name, j)]) := by
          rw [insertEntry_fieldValues _ hnew, fieldValues_append]
          rfl
        show (fieldValues rest).foldl _ (Value.insertEntry (.text name) j.toValue _) = _
        rw [hstep, ih (known ++ [(name, j)]) (by simpa using hnodup), List.append_assoc]
        rfl
  exact congrArg Value.map (hrun fields [] hnodup)

/-!
# Values
-/

theorem readValue_of_atom {c : CodePoint} {t rest after : Text} {v : Value} (fuel depth : Nat)
    (ht : t = c :: rest) (hc : c ≠ '"' ∧ c ≠ '[' ∧ c ≠ '\x7b')
    (hread : readAtom? (t ++ after) = some (v, after)) (hfuel : 2 * t.length ≤ fuel) :
    readValue fuel depth (t ++ after) = .ok (v, after) := by
  subst ht
  cases fuel with
  | zero => simp at hfuel
  | succ fuel =>
      rw [List.cons_append] at hread ⊢
      rw [readValue.eq_def]
      dsimp only
      rw [if_neg hc.1, if_neg hc.2.1, if_neg hc.2.2, hread]
      rfl

theorem readsBack_of_readable {escape : CodePoint → Text} (hescape : IsFaithful escape)
    {depth : Nat} {j : Json} (h : Readable depth j) : ReadsBack escape depth j := by
  induction h with
  | @null depth =>
      intro fuel rest hfuel _
      exact readValue_of_atom fuel depth rfl (by decide) rfl hfuel
  | @bool depth b =>
      intro fuel rest hfuel _
      cases b with
      | false => exact readValue_of_atom fuel depth rfl (by decide) rfl hfuel
      | true => exact readValue_of_atom fuel depth rfl (by decide) rfl hfuel
  | @int depth n short =>
      intro fuel rest hfuel hrest
      have hatom := readAtom?_ofInt_append short hrest
      show readValue fuel depth (Text.ofInt n ++ rest) = .ok (.int n, rest)
      rcases ofInt_eq_cons n with ⟨c, digits, hcons, hc⟩
      have hother : c ≠ '"' ∧ c ≠ '[' ∧ c ≠ '\x7b' := by
        rcases hc with hc | hc
        · subst hc
          decide
        · have hne := fun (d : CodePoint) hd => (ne_of_isAsciiDigit (c := d) hc hd).symm
          exact ⟨hne _ rfl, hne _ rfl, hne _ rfl⟩
      exact readValue_of_atom fuel depth hcons hother hatom hfuel
  | @text depth t isWritable =>
      intro fuel rest hfuel _
      have htext : (Json.text t).renderWith escape ++ rest =
          ('"' : CodePoint) :: (t.flatMap escape ++ ('"' : CodePoint) :: rest) := by
        simp [renderWith, quote, Text.ofString]
      rw [htext]
      cases fuel with
      | zero => simp [renderWith, quote, Text.ofString] at hfuel
      | succ fuel =>
          rw [readValue.eq_def]
          dsimp only
          rw [if_pos rfl, readText?_flatMap hescape isWritable]
          rfl
  | @array depth items values ih =>
      intro fuel rest hfuel _
      have htext : (Json.array items).renderWith escape ++ rest =
          ('[' : CodePoint) :: (itemsText escape items ++ (']' : CodePoint) :: rest) := by
        simp [renderWith, itemsText, Text.ofString]
      have hlength : ((Json.array items).renderWith escape).length =
          (itemsText escape items).length + 2 := by
        simp [renderWith, itemsText, Text.ofString]
      rw [htext]
      rw [hlength] at hfuel
      cases fuel with
      | zero => omega
      | succ fuel =>
          rw [readValue.eq_def]
          dsimp only
          rw [if_neg (by decide), if_pos rfl]
          cases items with
          | nil => rfl
          | cons first items =>
              rcases itemsText_eq_cons escape first items with ⟨c, u, hcons, hspace, hc⟩
              have hread := readItems_itemsText (fun j hj => ih j hj) fuel rest (by omega)
              rw [hcons] at hread ⊢
              rw [List.cons_append] at hread ⊢
              rw [skipSpace_cons hspace]
              dsimp only
              rw [if_neg hc, hread]
              rfl
  | @object depth fields names nodup values ih =>
      intro fuel rest hfuel _
      have htext : (Json.object fields).renderWith escape ++ rest =
          ('\x7b' : CodePoint) :: (fieldsText escape fields ++ ('\x7d' : CodePoint) :: rest) := by
        simp [renderWith, fieldsText, Text.ofString]
      have hlength : ((Json.object fields).renderWith escape).length =
          (fieldsText escape fields).length + 2 := by
        simp [renderWith, fieldsText, Text.ofString]
      rw [htext]
      rw [hlength] at hfuel
      cases fuel with
      | zero => omega
      | succ fuel =>
          rw [readValue.eq_def]
          dsimp only
          rw [if_neg (by decide), if_neg (by decide), if_pos rfl]
          cases fields with
          | nil => rfl
          | cons first fields =>
              rcases fieldsText_eq_cons escape first fields with ⟨u, hcons⟩
              have hread := readFields_fieldsText hescape names ih fuel rest (by omega)
              rw [hcons] at hread ⊢
              rw [List.cons_append] at hread ⊢
              rw [skipSpace_cons (c := '"') rfl]
              dsimp only
              rw [if_neg (by decide), hread]
              show Except.ok (Value.ofEntries (fieldValues (first :: fields)), rest) = _
              rw [ofEntries_fieldValues nodup]
              rfl

/-- JSON that is readable is read back, whatever faithfully stands for its code points. -/
theorem read_renderWith {escape : CodePoint → Text} (hescape : IsFaithful escape) {depth : Nat}
    {j : Json} (h : Readable depth j) : read depth (j.renderWith escape) = .ok j.toValue := by
  have hskip : skipSpace (j.renderWith escape) = j.renderWith escape := by
    rcases renderWith_eq_cons escape j with ⟨c, rest, hcons, hc, _⟩
    rw [hcons]
    exact skipSpace_cons hc rest
  have hread := readsBack_of_readable hescape h (2 * (j.renderWith escape).length + 1) []
    (Nat.le_succ _) closesPart_nil
  rw [List.append_nil] at hread
  rw [read, hskip, hread]
  rfl

theorem read_render {depth : Nat} {j : Json} (h : Readable depth j) :
    read depth j.render = .ok j.toValue :=
  read_renderWith isFaithful_escapePoint h

end Json
end TunnelBoard
