import SchemaCompiler.Proofs.Ddl.TokenEnds

/-!
Slices of a text. What is cut out of a text, from where a token starts to where one ends, is read
as the tokens between the two. A text may also go on in another way behind a closing parenthesis,
and the tokens up to it stay the same.
-/

namespace SchemaCompiler.Ddl

open Text

/-! Parts of texts -/

section Texts

variable {text other : List Char} {first stop n : Nat}

theorem drop_slice (ordered : first ≤ stop) :
    text.drop first = slice text first stop ++ text.drop stop := by
  have behind : text.drop stop = (text.drop first).drop (stop - first) := by
    rw [List.drop_drop, Nat.add_sub_of_le ordered]
  rw [behind, slice, List.take_append_drop]

theorem slice_eq_drop_take : slice text first stop = (text.take stop).drop first := by
  rw [List.drop_take, slice]

theorem slice_length (inside : stop ≤ text.length) :
    (slice text first stop).length = stop - first := by
  rw [slice, List.length_take_of_le]
  rw [List.length_drop]
  exact Nat.sub_le_sub_right inside first

/-- A slice of a slice lies as far behind as the slice itself. -/
theorem slice_slice (text : List Char) {first stop a b : Nat} (inside : b + first ≤ stop) :
    slice (slice text first stop) a b = slice text (a + first) (b + first) := by
  have short : min (b - a) (stop - first - a) = b - a := by omega
  rw [slice, slice, slice, List.drop_take, List.take_take, List.drop_drop, short,
    Nat.add_sub_add_right, Nat.add_comm first a]

theorem take_again (text : List Char) (stop : Nat) :
    (text.take stop).take stop = text.take stop := by
  rw [List.take_take, Nat.min_self]

theorem take_of_take (same : other.take stop = text.take stop) (within : n ≤ stop) :
    other.take n = text.take n := by
  have shorter := congrArg (List.take n) same
  rwa [List.take_take, List.take_take, Nat.min_eq_left within] at shorter

theorem slice_of_take (same : other.take stop = text.take stop) (within : n ≤ stop) :
    slice other first n = slice text first n := by
  rw [slice_eq_drop_take, slice_eq_drop_take, take_of_take same within]

end Texts

/-! Tokens where they stand -/

/-- A token as it is read in front of what stands behind it. -/
structure ReadsAs (text : List Char) (t : Token) : Prop where
  tile : Tile (text.drop t.start) t.kind t.value.toList (slice text t.start t.stop)
  lexeme : firstLexeme? (text.drop t.start) = some ⟨t.kind, t.value.toList, t.stop - t.start⟩

section Standing

variable {text other : List Char} {first stop : Nat} {t : Token} {front tokens behind : List Token}

theorem tokenize_tiling (read : tokenize text = .ok tokens) : Tiling text 0 text.length tokens := by
  have scanned : Scanned text 0 (tokensFrom text text.length 0 (text.drop 0)) :=
    scanned_tokens (Nat.zero_le _) (Nat.le_refl _)
  rw [List.drop_zero, ← tokenize, read] at scanned
  exact scanned

theorem read_from_tokenizes (read : ReadFrom text first tokens) : Tokenizes (text.drop first) := by
  obtain ⟨bound, enough, read⟩ := read
  rw [tokenizes_iff text enough first, read]
  rfl

theorem read_from_of_tokenizes (tokenizes : Tokenizes (text.drop first)) :
    ∃ tokens, ReadFrom text first tokens := by
  have read := (tokenizes_iff text (Nat.le_refl _) first).mp tokenizes
  obtain ⟨tokens, read⟩ := Outcome.exists_ok read
  exact ⟨tokens, _, Nat.le_refl _, read⟩

theorem reads_as_member (read : tokenize text = .ok tokens) (member : t ∈ tokens) :
    ReadsAs text t ∧ Tokenizes (text.drop t.stop) := by
  have tile := (tokenize_tiling read).tiles t member
  obtain ⟨before, others, rfl⟩ := List.append_of_mem member
  obtain ⟨place, here⟩ := read_from_append (read_from_start read)
  have stands := read_from_cons here
  exact ⟨⟨tile, stands.lexeme⟩, read_from_tokenizes stands.others⟩

/-- A token is read in every text that is the same up to its end and goes on with a replacement. -/
theorem reads_as_replaced (reads : ReadsAs text t) (tokenizes : Tokenizes (text.drop t.stop))
    (span : t.start < t.stop) (inside : t.stop ≤ text.length)
    (same : other.take t.stop = text.take t.stop)
    (replaces : t.kind ≠ .closing →
      Replaces (slice text t.start t.stop) (text.drop t.stop) (other.drop t.stop)) :
    ReadsAs other t := by
  obtain ⟨tile, lexeme⟩ := reads
  have spanned : slice other t.start t.stop = slice text t.start t.stop :=
    slice_of_take same (Nat.le_refl _)
  rw [drop_slice (Nat.le_of_lt span)] at tile lexeme
  rw [← slice_length inside] at lexeme
  constructor
  · rw [drop_slice (Nat.le_of_lt span), spanned]
    exact tile_replaced tile replaces
  · rw [drop_slice (Nat.le_of_lt span), spanned, ← slice_length inside]
    exact first_lexeme_replaced tile lexeme tokenizes replaces

/-! Parts of tilings -/

theorem tiling_start (tiling : Tiling text first stop (t :: tokens)) :
    Tiling text t.start stop (t :: tokens) := by
  obtain ⟨_, span, _⟩ := tiling.spans t (by simp)
  exact tiling_cons span (tiling.tiles t (by simp)) (tiling_tail tiling)

theorem tiling_behind (tiling : Tiling text first stop (front ++ tokens)) :
    ∃ place, Tiling text place stop tokens := by
  induction front generalizing first with
  | nil => exact ⟨first, tiling⟩
  | cons t rest ih => exact ih (tiling_tail tiling)

/-- The tokens up to one of them tile the text up to its end. -/
theorem tiling_front {last : Token} (tiling : Tiling text first stop (front ++ last :: behind)) :
    Tiling text first last.stop (front ++ [last]) := by
  have whole : front ++ last :: behind = (front ++ [last]) ++ behind := by simp
  rw [whole] at tiling
  obtain ⟨ordered, _, apart⟩ := List.pairwise_append.mp tiling.ordered
  obtain ⟨low, span, high⟩ := tiling.spans last (by simp)
  have among {t : Token} (member : t ∈ front ++ [last]) : t ∈ front ++ [last] ++ behind :=
    List.mem_append_left behind member
  refine ⟨⟨by omega, Nat.le_trans high tiling.inside.2⟩, ?_, ordered, ?_, ?_⟩
  · intro t member
    obtain ⟨low, span, _⟩ := tiling.spans t (among member)
    refine ⟨low, span, ?_⟩
    rcases List.mem_append.mp member with before | final
    · have earlier := (List.pairwise_append.mp ordered).2.2 t before last (by simp)
      omega
    · rw [List.mem_singleton.mp final]
  · intro place c low inside there free
    apply tiling.gaps place c low (by omega) there
    intro t member
    rcases List.mem_append.mp member with before | later
    · exact free t before
    · have beyond := apart last (by simp) t later
      omega
  · exact fun t member => tiling.tiles t (among member)

/-- Tokens that are tiles in another text tile it as far as the texts are the same. -/
theorem tiling_replaced (tiling : Tiling text first stop tokens)
    (same : other.take stop = text.take stop) (reads : ∀ t ∈ tokens, ReadsAs other t) :
    Tiling other first stop tokens := by
  have length := congrArg List.length same
  rw [List.length_take, List.length_take, Nat.min_eq_left tiling.inside.2] at length
  refine ⟨⟨tiling.inside.1, by omega⟩, tiling.spans, tiling.ordered, ?_, ?_⟩
  · intro place c low inside there
    rw [← List.getElem?_take_of_lt inside, same, List.getElem?_take_of_lt inside] at there
    exact tiling.gaps place c low inside there
  · exact fun t member => (reads t member).tile

/-! Reading along a tiling -/

theorem read_from_bound (read : ReadFrom text first tokens) {bound : Nat}
    (enough : (text.drop first).length ≤ bound) :
    tokensFrom text bound first (text.drop first) = .ok tokens := by
  obtain ⟨fits, less, read⟩ := read
  have same := tokens_from_moved text text less enough first 0
  rw [read, Nat.add_zero] at same
  refine (Outcome.to_option_some_iff _ _).mp (same.trans ?_)
  exact congrArg some (List.map_id tokens)

/-- What is read from the start on is what the text is read as. -/
theorem tokenize_read_from (read : ReadFrom text 0 tokens) : tokenize text = .ok tokens :=
  read_from_bound read (Nat.le_refl _)

theorem read_from_blank {c : Char} (here : text[first]? = some c) (blank : isBlank c = true)
    (read : ReadFrom text (first + 1) tokens) : ReadFrom text first tokens := by
  obtain ⟨inside, rfl⟩ := List.getElem?_eq_some_iff.mp here
  have parts := List.drop_eq_getElem_cons inside
  refine ⟨(text.drop (first + 1)).length + 1, by rw [parts]; rfl, ?_⟩
  rw [parts, tokens_from_blank blank]
  exact read_from_bound read (Nat.le_refl _)

theorem read_from_gap (ordered : first ≤ stop) (inside : stop ≤ text.length)
    (gap : ∀ place c, first ≤ place → place < stop → text[place]? = some c → isBlank c = true)
    (read : ReadFrom text stop tokens) : ReadFrom text first tokens := by
  induction stop, ordered using Nat.le_induction with
  | base => exact read
  | succ stop low ih =>
      have here := List.getElem?_eq_getElem (l := text) (i := stop) (by omega)
      have blank := gap stop _ low (Nat.lt_succ_self stop) here
      exact ih (by omega) (fun place c after before => gap place c after (by omega))
        (read_from_blank here blank read)

theorem read_from_token (reads : ReadsAs text t) (span : t.start < t.stop)
    (read : ReadFrom text t.stop tokens) : ReadFrom text t.start (t :: tokens) := by
  obtain ⟨tile, lexeme⟩ := reads
  obtain ⟨c, more, starts, solid⟩ := tile_first tile
  have here : text.drop t.start = slice text t.start t.stop ++ text.drop t.stop :=
    drop_slice (Nat.le_of_lt span)
  rw [starts, List.cons_append] at here
  rw [here] at lexeme
  have length : t.start + (t.stop - t.start) = t.stop := by omega
  have behind : (text.drop t.start).drop (t.stop - t.start) = text.drop t.stop := by
    rw [List.drop_drop, length]
  have short : (text.drop t.stop).length ≤ (more ++ text.drop t.stop).length := by simp
  rw [here] at behind
  refine ⟨(more ++ text.drop t.stop).length + 1, by rw [here]; rfl, ?_⟩
  rw [here, tokens_from_lexeme solid lexeme, length, behind, read_from_bound read short,
    String.ofList_toList]
  rfl

/-- Tokens that tile a text, each read as it stands, are read along it. -/
theorem read_from_tiling (tiling : Tiling text first stop front)
    (reads : ∀ t ∈ front, ReadsAs text t) (behind : ReadFrom text stop tokens) :
    ReadFrom text first (front ++ tokens) := by
  induction front generalizing first with
  | nil =>
      exact read_from_gap tiling.inside.1 tiling.inside.2 (fun place c low high there =>
        tiling.gaps place c low high there (by simp)) behind
  | cons t rest ih =>
      obtain ⟨low, span, high⟩ := tiling.spans t (by simp)
      have later := ih (tiling_tail tiling) fun other member =>
        reads other (List.mem_cons_of_mem t member)
      have here := read_from_token (reads t (by simp)) span later
      exact read_from_gap low (Nat.le_trans (Nat.le_of_lt span) (Nat.le_trans high tiling.inside.2))
        (fun place c after before there => tiling_gap tiling after before there) here

end Standing

/-! Slices and other ends -/

section Parts

variable {text other : List Char} {first stop : Nat} {front part behind others tokens : List Token}

/-- What is read from a place on is read there by itself, as far in front as the place lies
behind. -/
theorem tokenize_dropped (read : ReadFrom text first tokens) :
    ∃ found, tokenize (text.drop first) = .ok found ∧ found.map (Token.moved first) = tokens := by
  have here := read_from_bound read (Nat.le_refl _)
  have moved := tokens_from_moved (text.drop first) text (Nat.le_refl (text.drop first).length)
    (Nat.le_refl _) 0 first
  rw [Nat.zero_add, here, ← tokenize] at moved
  obtain ⟨found, known, shifted⟩ := Option.map_eq_some_iff.mp moved.symm
  exact ⟨found, (Outcome.to_option_some_iff _ _).mp known, shifted⟩

/-- A token stays as it is read when the text is cut behind it. -/
theorem reads_as_cut (read : tokenize text = .ok tokens) {t : Token} (member : t ∈ tokens)
    (within : t.stop ≤ stop) : ReadsAs (text.take stop) t := by
  obtain ⟨reads, tokenizes⟩ := reads_as_member read member
  obtain ⟨_, span, inside⟩ := (tokenize_tiling read).spans t member
  have shorter : (text.take stop).drop t.stop <+: text.drop t.stop := by
    rw [List.drop_take]
    exact List.take_prefix _ _
  exact reads_as_replaced reads tokenizes span inside
    (take_of_take (take_again text stop) within) fun _ => replaces_cut shorter _

/-- From where a token starts to where one ends, a text is read as the tokens between the two. -/
theorem tokenize_slice {start last : Token}
    (read : tokenize text = .ok (front ++ (part ++ behind))) (starts : part.head? = some start)
    (ends : part.getLast? = some last) :
    ∃ found, tokenize (slice text start.start last.stop) = .ok found ∧
      found.map (Token.moved start.start) = part := by
  obtain ⟨before, rfl⟩ := List.getLast?_eq_some_iff.mp ends
  obtain ⟨rest, same⟩ := List.head?_eq_some_iff.mp starts
  obtain ⟨place, tiling⟩ := tiling_behind (tokenize_tiling read)
  rw [same, List.cons_append] at tiling
  have started := tiling_start tiling
  rw [← List.cons_append, ← same, List.append_assoc, List.singleton_append] at started
  have sliced := tiling_front started
  have reads : ∀ t ∈ before ++ [last], ReadsAs (text.take last.stop) t := fun t member =>
    reads_as_cut read (List.mem_append_right front (List.mem_append_left behind member))
      (sliced.spans t member).2.2
  have nothing : ReadFrom (text.take last.stop) last.stop [] := by
    have none : (text.take last.stop).drop last.stop = [] := by simp
    refine ⟨0, ?_, ?_⟩
    · rw [none]
      exact Nat.le_refl 0
    · rw [none]
      rfl
  have whole := read_from_tiling (tiling_replaced sliced (take_again text last.stop) reads) reads
    nothing
  rw [List.append_nil] at whole
  rw [slice_eq_drop_take]
  exact tokenize_dropped whole

theorem tokenize_slice_between (read : tokenize text = .ok tokens) {i j : Nat}
    {start last : Token} (ordered : i ≤ j) (first : tokens[i]? = some start)
    (final : tokens[j]? = some last) :
    ∃ found, tokenize (slice text start.start last.stop) = .ok found ∧
      found.map (Token.moved start.start) = (tokens.take (j + 1)).drop i := by
  have low : i < j + 1 := Nat.lt_succ_of_le ordered
  have shorter : (tokens.take (j + 1)).take i = tokens.take i := by
    rw [List.take_take, Nat.min_eq_left (Nat.le_of_lt low)]
  have parts : tokens.take i ++ ((tokens.take (j + 1)).drop i ++ tokens.drop (j + 1)) = tokens := by
    rw [← List.append_assoc, ← shorter, List.take_append_drop, List.take_append_drop]
  have starts : ((tokens.take (j + 1)).drop i).head? = some start := by
    rw [List.head?_drop, List.getElem?_take_of_lt low, first]
  have ends : ((tokens.take (j + 1)).drop i).getLast? = some last := by
    have inside : j < tokens.length := (List.getElem?_eq_some_iff.mp final).1
    have beyond : ¬ (tokens.take (j + 1)).length ≤ i := by
      rw [List.length_take]
      omega
    rw [List.getLast?_drop, if_neg beyond, List.getLast?_take, if_neg (Nat.succ_ne_zero j),
      Nat.add_sub_cancel, final]
    rfl
  rw [← parts] at read
  exact tokenize_slice read starts ends

theorem slice_closing {closing : Token} (reads : ReadsAs text closing)
    (closes : closing.kind = .closing) : slice text closing.start closing.stop = [')'] := by
  have tile := reads.tile
  rw [closes] at tile
  generalize closing.value.toList = value at tile
  generalize slice text closing.start closing.stop = span at tile ⊢
  cases tile with
  | closing => rfl

/-- A token in front of a closing parenthesis stays as it is read when the text goes on in another
way behind the parenthesis. -/
theorem reads_as_before {closing t : Token} (read : tokenize text = .ok tokens)
    (among : closing ∈ tokens) (closes : closing.kind = .closing) (member : t ∈ tokens)
    (apart : t.kind ≠ .closing → t.stop ≤ closing.start) (within : t.stop ≤ closing.stop)
    (same : other.take closing.stop = text.take closing.stop) : ReadsAs other t := by
  obtain ⟨reads, tokenizes⟩ := reads_as_member read member
  obtain ⟨_, span, inside⟩ := (tokenize_tiling read).spans t member
  have shut := slice_closing (reads_as_member read among).1 closes
  refine reads_as_replaced reads tokenizes span inside (take_of_take same within) fun inner => ?_
  have closed : ')' ∈ slice text t.stop closing.stop := by
    rw [slice_eq_drop_take]
    apply List.drop_subset_drop_left _ (apart inner)
    rw [← slice_eq_drop_take, shut]
    simp
  rw [drop_slice within, drop_slice within, slice_of_take same (Nat.le_refl _)]
  exact replaces_behind_closing closed _ _ _

/-- Up to a closing parenthesis the tokens do not depend on what is behind it. -/
theorem tokens_before_closing {closing : Token}
    (read : tokenize text = .ok (front ++ closing :: behind)) (closes : closing.kind = .closing)
    (same : other.take closing.stop = text.take closing.stop)
    (again : tokenize other = .ok others) :
    ∃ after, others = front ++ closing :: after := by
  have tiling := tiling_front (tokenize_tiling read)
  have ordered := (List.pairwise_append.mp tiling.ordered).2.2
  have reads : ∀ t ∈ front ++ [closing], ReadsAs other t := by
    intro t member
    have within := (tiling.spans t member).2.2
    rcases List.mem_append.mp member with before | final
    · have apart := ordered t before closing (by simp)
      exact reads_as_before read (by simp) closes (List.mem_append_left _ before) (fun _ => apart)
        within same
    · obtain rfl := List.mem_singleton.mp final
      exact reads_as_before read (by simp) closes (by simp) (fun inner => absurd closes inner)
        within same
  have tiled := tiling_replaced tiling same reads
  have tokenizes : Tokenizes (other.drop closing.stop) :=
    (tiling_tokenizes tiled).mp ⟨others, again⟩
  obtain ⟨after, later⟩ := read_from_of_tokenizes tokenizes
  have whole := tokenize_read_from (read_from_tiling tiled reads later)
  rw [again, List.append_assoc] at whole
  exact ⟨after, Except.ok.inj whole⟩

end Parts

end SchemaCompiler.Ddl
