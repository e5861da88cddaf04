import TemplateMarkup.Proofs.ByteOffsets
import TemplateMarkup.Proofs.WrittenNames

/-!
# Tags in bytes

The readers of names, attributes and start tags take characters from the front of a text and hand
back the rest. Here the same is done over the bytes of the text: a scan moves an offset along, one
byte at a time, and what lies between two offsets is sliced out of the text. A result is `none` if a
slice fails. None does, and what is scanned is what is read, with the offset of the rest in place of
the rest (`StartTag.scan?_eq`).
-/

namespace TemplateMarkup

open Text

variable {s rest : Text}

/-! ### Classes of characters -/

theorem toNat_lt_of_isAlpha {c : Char} (letter : c.isAlpha = true) : c.toNat < 0x80 :=
  toNat_lt_of_isTagNameChar (by simp [isTagNameChar, Char.isAlphanum, letter])

theorem isBlindBeyondAscii_isTagNameChar : IsBlindBeyondAscii isTagNameChar :=
  isBlindBeyondAscii_of_lt fun _ => toNat_lt_of_isTagNameChar

theorem isBlindBeyondAscii_isAlpha : IsBlindBeyondAscii Char.isAlpha :=
  isBlindBeyondAscii_of_lt fun _ => toNat_lt_of_isAlpha

theorem isBlindBeyondAscii_isSpace : IsBlindBeyondAscii isSpace := by
  have eq := fun {q : Char} => isBlindBeyondAscii_eq (q := q)
  exact ((((eq (by decide)).or (eq (by decide))).or (eq (by decide))).or (eq (by decide))).or
    (eq (by decide))

/-- No space, and none of six other characters of ASCII. -/
theorem isBlindBeyondAscii_excluding {a b c d e f : Char}
    (ascii : ∀ q ∈ [a, b, c, d, e, f], q.toNat < 0x80) :
    IsBlindBeyondAscii fun x =>
      !isSpace x && x ≠ a && x ≠ b && x ≠ c && x ≠ d && x ≠ e && x ≠ f := by
  have ne := fun {q : Char} (member : q ∈ [a, b, c, d, e, f]) =>
    isBlindBeyondAscii_ne (ascii q member)
  exact (((((isBlindBeyondAscii_isSpace.not.and (ne (by simp))).and (ne (by simp))).and
    (ne (by simp))).and (ne (by simp))).and (ne (by simp))).and (ne (by simp))

theorem isBlindBeyondAscii_isAttributeNameChar : IsBlindBeyondAscii isAttributeNameChar :=
  isBlindBeyondAscii_excluding (by simp)

theorem isBlindBeyondAscii_isUnquotedChar : IsBlindBeyondAscii isUnquotedChar :=
  isBlindBeyondAscii_excluding (by simp)

/-! ### Names -/

def scanTagName? (s : Text) : Option Text :=
  if (s.byteAt? 0).any Char.isAlpha then s.slice? 0 (scanBytes isTagNameChar s 0) else some []

theorem slice?_scanBytes {p : Char → Bool} (blind : IsBlindBeyondAscii p) (suffix : rest <:+ s) :
    s.slice? (s.offsetOf rest) (scanBytes p s (s.offsetOf rest)) = some (rest.takeWhile p) := by
  have cut := List.takeWhile_append_dropWhile (p := p) (l := rest)
  rw [scanBytes_offsetOf blind suffix]
  rw [← cut] at suffix
  have sliced := slice?_offsetOf suffix
  rwa [cut] at sliced

theorem scanTagName?_eq (s : Text) : scanTagName? s = some (tagName s) := by
  have sliced := slice?_scanBytes isBlindBeyondAscii_isTagNameChar (List.suffix_refl s)
  have first := any_byteAt?_offsetOf isBlindBeyondAscii_isAlpha (List.suffix_refl s)
  rw [offsetOf_self] at sliced first
  rw [scanTagName?, first, sliced]
  cases s with
  | nil => rfl
  | cons c s =>
      rw [tagName, List.head?_cons, Option.any_some]
      split
      next letter =>
        have continues : isTagNameChar c = true := by
          simp [isTagNameChar, Char.isAlphanum, letter]
        rw [List.takeWhile_cons_of_pos continues]
      next => rfl

/-! ### Attributes -/

namespace Attribute

/-- The value that begins at byte `i`, as written, and the offset behind it. -/
def scanValue? (s : Text) (i : Nat) : Option (Option (Text × Nat)) :=
  match s.byteAt? i with
  | none => some none
  | some q =>
    if q = '"' ∨ q = '\'' then
      (dropBytes? (i + 1) s).bind fun tail =>
        match findByte? [q] tail with
        | none => some none
        | some length =>
          (s.slice? (i + 1) (i + 1 + length)).map fun value => some (value, i + length + 2)
    else
      let stop := scanBytes isUnquotedChar s i
      if stop = i then some none else (s.slice? i stop).map fun value => some (value, stop)

def scan? (s : Text) (i : Nat) : Option (Option (Attribute × Nat)) :=
  let stop := scanBytes isAttributeNameChar s i
  if stop = i then some none
  else
    (s.slice? i stop).bind fun name =>
      let next := scanBytes isSpace s stop
      if s.byteAt? next = some '=' then
        (scanValue? s (scanBytes isSpace s (next + 1))).map fun found =>
          found.map fun (value, behind) => (⟨name, decodeReferences value⟩, behind)
      else some (some (⟨name, []⟩, stop))

/-! ### What is scanned is what is read -/

theorem scanBytes_eq_self_iff {p : Char → Bool} (blind : IsBlindBeyondAscii p)
    (suffix : rest <:+ s) :
    scanBytes p s (s.offsetOf rest) = s.offsetOf rest ↔ rest.takeWhile p = [] := by
  rw [scanBytes_offsetOf blind suffix, offsetOf_dropWhile suffix, ← utf8Length_eq_zero_iff]
  omega

theorem scanValue?_quoted {q : Char} {t : Text} (quote : q = '"' ∨ q = '\'')
    (suffix : q :: t <:+ s) :
    scanValue? s (s.offsetOf (q :: t)) =
      some ((cut? [q] t).map fun (value, behind) => (value, s.offsetOf behind)) := by
  have ascii : q.toNat < 0x80 := by
    obtain rfl | rfl := quote
    all_goals decide
  have here : s.byteAt? (s.offsetOf (q :: t)) = some q :=
    (byteAt?_offsetOf_eq_some_iff ascii suffix).2 rfl
  have next := offsetOf_cons ascii suffix
  have inside : t <:+ s := (List.suffix_cons q t).trans suffix
  rw [scanValue?, here]
  dsimp only
  rw [if_pos quote, ← next, dropBytes?_offsetOf inside, Option.bind_some, findByte?]
  cases cut : cut? [q] t with
  | none => rfl
  | some parts =>
      obtain ⟨value, behind⟩ := parts
      have whole : t = value ++ q :: behind := by simpa using append_of_cut? cut
      have closing : q :: behind <:+ s := by
        rw [whole] at inside
        exact (List.suffix_append value _).trans inside
      have stop := offsetOf_eq_add (whole ▸ inside)
      rw [← whole] at stop
      have sliced := slice?_offsetOf (whole ▸ inside)
      rw [← whole] at sliced
      have last := offsetOf_cons ascii closing
      simp only [Option.map_some, ← stop, sliced]
      congr 3
      omega

theorem scanValue?_eq (suffix : rest <:+ s) :
    scanValue? s (s.offsetOf rest) =
      some ((readValue? rest).map fun (value, behind) => (value, s.offsetOf behind)) := by
  rw [readValue?.eq_def]
  split
  next t => exact scanValue?_quoted (.inl rfl) suffix
  next t => exact scanValue?_quoted (.inr rfl) suffix
  next noDouble noSingle =>
    have bare := scanBytes_eq_self_iff isBlindBeyondAscii_isUnquotedChar suffix
    have sliced := slice?_scanBytes isBlindBeyondAscii_isUnquotedChar suffix
    have stop := scanBytes_offsetOf isBlindBeyondAscii_isUnquotedChar suffix
    rw [scanValue?]
    cases at? : s.byteAt? (s.offsetOf rest) with
    | none =>
        obtain rfl := (byteAt?_offsetOf_eq_none_iff suffix).1 at?
        rfl
    | some q =>
        have noQuote : ¬ (q = '"' ∨ q = '\'') := by
          rintro (rfl | rfl)
          · exact byteAt?_offsetOf_ne_some (by decide) suffix noDouble at?
          · exact byteAt?_offsetOf_ne_some (by decide) suffix noSingle at?
        dsimp only
        rw [if_neg noQuote]
        cases value : rest.takeWhile isUnquotedChar with
        | nil => rw [if_pos (bare.2 value)]; rfl
        | cons c more =>
            rw [if_neg fun same => by simp [bare.1 same] at value, sliced, stop, value]
            rfl

/-- The offset behind the spaces at a place. -/
theorem scanBytes_isSpace (suffix : rest <:+ s) :
    scanBytes isSpace s (s.offsetOf rest) = s.offsetOf (skipSpaces rest) :=
  scanBytes_offsetOf isBlindBeyondAscii_isSpace suffix

/-- What is scanned as an attribute is what is read. -/
theorem scan?_eq (suffix : rest <:+ s) :
    scan? s (s.offsetOf rest) =
      some ((read? rest).map fun (a, behind) => (a, s.offsetOf behind)) := by
  have named := scanBytes_eq_self_iff isBlindBeyondAscii_isAttributeNameChar suffix
  have sliced := slice?_scanBytes isBlindBeyondAscii_isAttributeNameChar suffix
  have stop := scanBytes_offsetOf isBlindBeyondAscii_isAttributeNameChar suffix
  have behindName : rest.dropWhile isAttributeNameChar <:+ s :=
    (List.dropWhile_suffix _).trans suffix
  have behindSpaces := (suffix_skipSpaces _).trans behindName
  have assigned := byteAt?_offsetOf_eq_some_iff (q := '=') (by decide) behindSpaces
  rw [scan?, read?]
  dsimp only
  cases name : rest.takeWhile isAttributeNameChar with
  | nil => rw [if_pos (named.2 name)]; rfl
  | cons c more =>
      rw [if_neg fun same => by simp [named.1 same] at name, sliced, name, Option.bind_some, stop,
        scanBytes_isSpace behindName]
      dsimp only
      split
      next equals =>
        obtain ⟨t, split⟩ := List.head?_eq_some_iff.1 (assigned.1 equals)
        have inside : '=' :: t <:+ s := split ▸ behindSpaces
        have further : skipSpaces t <:+ s :=
          (suffix_skipSpaces t).trans ((List.suffix_cons _ t).trans inside)
        rw [split, ← offsetOf_cons (by decide) inside,
          scanBytes_isSpace ((List.suffix_cons _ t).trans inside), scanValue?_eq further]
        simp only [Option.map_some, Option.map_map]
        rfl
      next noEquals =>
        split
        next t split => exact absurd (assigned.2 (by rw [split]; rfl)) noEquals
        next => rfl

theorem le_of_scanValue? {i next : Nat} {value : Text}
    (scanned : scanValue? s i = some (some (value, next))) : i ≤ next := by
  rw [scanValue?] at scanned
  split at scanned
  · simp at scanned
  split at scanned
  next quote =>
    obtain ⟨tail, -, scanned⟩ := Option.bind_eq_some_iff.1 scanned
    split at scanned
    · simp at scanned
    · obtain ⟨value, -, same⟩ := Option.map_eq_some_iff.1 scanned
      obtain ⟨-, rfl⟩ := Prod.mk.inj (Option.some.inj same)
      omega
  next noQuote =>
    dsimp only at scanned
    split at scanned
    · simp at scanned
    · obtain ⟨value, -, same⟩ := Option.map_eq_some_iff.1 scanned
      obtain ⟨-, rfl⟩ := Prod.mk.inj (Option.some.inj same)
      exact le_scanBytes _ s i

/-- An attribute has a name, so scanning one moves on. -/
theorem lt_of_scan? {i next : Nat} {a : Attribute} (scanned : scan? s i = some (some (a, next))) :
    i < next := by
  have named := le_scanBytes isAttributeNameChar s i
  rw [scan?] at scanned
  dsimp only at scanned
  split at scanned
  · simp at scanned
  next moved =>
    obtain ⟨name, -, scanned⟩ := Option.bind_eq_some_iff.1 scanned
    split at scanned
    next assigned =>
      obtain ⟨found, valued, same⟩ := Option.map_eq_some_iff.1 scanned
      obtain ⟨⟨value, behind⟩, rfl, whole⟩ := Option.map_eq_some_iff.1 same
      obtain ⟨-, rfl⟩ := Prod.mk.inj whole
      have behindValue := le_of_scanValue? valued
      have behindName := le_scanBytes isSpace s (scanBytes isAttributeNameChar s i)
      have behindEquals := le_scanBytes isSpace s
        (scanBytes isSpace s (scanBytes isAttributeNameChar s i) + 1)
      omega
    next bare =>
      obtain ⟨-, rfl⟩ := Prod.mk.inj (Option.some.inj (Option.some.inj scanned))
      omega

/-- The attributes that begin at byte `i`, whether a slash ends them, and the offset behind the
closing angle bracket. -/
def scanAll? (s : Text) (i : Nat) : Option (Option (List Attribute × Bool × Nat)) :=
  let first := scanBytes isSpace s i
  match _h : s.byteAt? first with
  | none => some none
  | some c =>
    if c = '>' then some (some ([], false, first + 1))
    else if c = '/' then
      let second := scanBytes isSpace s (first + 1)
      if s.byteAt? second = some '>' then some (some ([], true, second + 1)) else some none
    else
      match _h' : scan? s first with
      | none => none
      | some none => some none
      | some (some (a, next)) =>
        (scanAll? s next).map fun found =>
          found.map fun (attributes, selfClosing, behind) => (a :: attributes, selfClosing, behind)
termination_by utf8Length s - i
decreasing_by
  have moved := lt_of_scan? _h'
  have within := lt_of_byteAt? _h
  have skipped := le_scanBytes isSpace s i
  omega

theorem scanAll?_step (s : Text) (i : Nat) :
    scanAll? s i =
      let first := scanBytes isSpace s i
      match s.byteAt? first with
      | none => some none
      | some c =>
        if c = '>' then some (some ([], false, first + 1))
        else if c = '/' then
          let second := scanBytes isSpace s (first + 1)
          if s.byteAt? second = some '>' then some (some ([], true, second + 1)) else some none
        else
          (scan? s first).bind fun
            | none => some none
            | some (a, next) =>
              (scanAll? s next).map fun found =>
                found.map fun (attributes, selfClosing, behind) =>
                  (a :: attributes, selfClosing, behind) := by
  rw [scanAll?]
  dsimp only
  split
  next ended => rw [ended]
  next c found =>
    rw [found]
    dsimp only
    congr 2
    split
    next failed => rw [failed]; rfl
    next nothing => rw [nothing]; rfl
    next a next scanned => rw [scanned]; rfl

/-- Where neither the text nor the tag ends, an attribute is scanned. -/
theorem scanAll?_attribute (suffix : rest <:+ s) (nonempty : skipSpaces rest = [] → False)
    (noBracket : ∀ t, skipSpaces rest = '>' :: t → False)
    (noSlash : ∀ t, skipSpaces rest = '/' :: t → False) :
    scanAll? s (s.offsetOf rest) =
      (scan? s (s.offsetOf (skipSpaces rest))).bind fun
        | none => some none
        | some (a, next) =>
          (scanAll? s next).map fun found =>
            found.map fun (attributes, selfClosing, behind) =>
              (a :: attributes, selfClosing, behind) := by
  have inside := (suffix_skipSpaces rest).trans suffix
  have notBracket := byteAt?_offsetOf_ne_some (by decide) inside noBracket
  have notSlash := byteAt?_offsetOf_ne_some (by decide) inside noSlash
  rw [scanAll?_step, scanBytes_isSpace suffix]
  dsimp only
  cases at? : s.byteAt? (s.offsetOf (skipSpaces rest)) with
  | none => exact absurd ((byteAt?_offsetOf_eq_none_iff inside).1 at?) nonempty
  | some c =>
      rw [at?, ne_eq, Option.some.injEq] at notBracket notSlash
      dsimp only
      rw [if_neg notBracket, if_neg notSlash]

/-- What is scanned as the attributes of a start tag is what is read. -/
theorem scanAll?_eq (suffix : rest <:+ s) :
    scanAll? s (s.offsetOf rest) =
      some ((readAll? rest).map fun (attributes, selfClosing, behind) =>
        (attributes, selfClosing, s.offsetOf behind)) := by
  fun_induction readAll? rest with
  | case1 rest ended =>
      have inside := (suffix_skipSpaces rest).trans suffix
      rw [scanAll?_step, scanBytes_isSpace suffix]
      rw [ended] at inside ⊢
      dsimp only
      rw [(byteAt?_offsetOf_eq_none_iff inside).2 rfl]
      rfl
  | case2 rest r closed =>
      have inside := (suffix_skipSpaces rest).trans suffix
      rw [scanAll?_step, scanBytes_isSpace suffix]
      rw [closed] at inside ⊢
      dsimp only
      rw [byteAt?_offsetOf_cons (by decide) inside]
      dsimp only
      rw [if_pos rfl, ← offsetOf_cons (by decide) inside]
      rfl
  | case3 rest t slash r closed =>
      have inside := (suffix_skipSpaces rest).trans suffix
      rw [slash] at inside
      have behindSlash := (List.suffix_cons '/' t).trans inside
      have bracket := (suffix_skipSpaces t).trans behindSlash
      rw [scanAll?_step, scanBytes_isSpace suffix, slash]
      dsimp only
      rw [byteAt?_offsetOf_cons (by decide) inside]
      dsimp only
      rw [if_neg (by decide), if_pos rfl, ← offsetOf_cons (by decide) inside,
        scanBytes_isSpace behindSlash]
      rw [closed] at bracket ⊢
      rw [if_pos (byteAt?_offsetOf_cons (by decide) bracket), ← offsetOf_cons (by decide) bracket]
      rfl
  | case4 rest t slash unclosed =>
      have inside := (suffix_skipSpaces rest).trans suffix
      rw [slash] at inside
      have behindSlash := (List.suffix_cons '/' t).trans inside
      have noBracket := byteAt?_offsetOf_ne_some (by decide)
        ((suffix_skipSpaces t).trans behindSlash) unclosed
      rw [scanAll?_step, scanBytes_isSpace suffix, slash]
      dsimp only
      rw [byteAt?_offsetOf_cons (by decide) inside]
      dsimp only
      rw [if_neg (by decide), if_pos rfl, ← offsetOf_cons (by decide) inside,
        scanBytes_isSpace behindSlash, if_neg noBracket]
      rfl
  | case5 rest unread nonempty noBracket noSlash =>
      have inside := (suffix_skipSpaces rest).trans suffix
      rw [scanAll?_attribute suffix nonempty noBracket noSlash, scan?_eq inside, unread]
      rfl
  | case6 rest a r first nonempty noBracket noSlash ih =>
      have inside := (suffix_skipSpaces rest).trans suffix
      rw [scanAll?_attribute suffix nonempty noBracket noSlash, scan?_eq inside, first]
      dsimp only [Option.map_some, Option.bind_some]
      rw [ih ((suffix_of_read? first).trans inside), Option.map_some, Option.map_map,
        Option.map_map]
      rfl

end Attribute

/-! ### Start tags -/

/-- The offset behind the tag name that begins at a place. -/
theorem offsetOf_drop_tagName (suffix : rest <:+ s) :
    s.offsetOf (rest.drop (tagName rest).length) = s.offsetOf rest + utf8Length (tagName rest) := by
  have whole := tagName_append_drop rest
  rw [← whole] at suffix
  rw [offsetOf_eq_add suffix, whole]

namespace StartTag

def scan? (s : Text) : Option (Option (StartTag × Nat)) :=
  match after? ['<'] s with
  | none => some none
  | some t =>
    (scanTagName? t).bind fun name =>
      if name = [] then some none
      else
        (Attribute.scanAll? s (1 + utf8Length name)).map fun found =>
          found.map fun (attributes, selfClosing, length) =>
            (⟨name, attributes, selfClosing⟩, length)

/-- What is scanned as a start tag is what is read. -/
theorem scan?_eq (s : Text) :
    scan? s = some ((read? s).map fun (tag, rest) => (tag, s.offsetOf rest)) := by
  rw [scan?]
  split
  next unopened =>
    rw [read?.eq_def]
    split
    next t => exact absurd ((after?_append ['<'] t).symm.trans unopened) (Option.some_ne_none t)
    · rfl
  next t opened =>
    obtain rfl : s = '<' :: t := after?_eq_some_iff.1 opened
    have inside : t <:+ '<' :: t := List.suffix_cons '<' t
    have behindName := offsetOf_drop_tagName inside
    have first : offsetOf ('<' :: t) t = 1 := offsetOf_append ['<'] t
    rw [first] at behindName
    rw [scanTagName?_eq, Option.bind_some, read?]
    split
    next nameless => rw [nameless]; rfl
    next named =>
      rw [← behindName, Attribute.scanAll?_eq ((List.drop_suffix _ t).trans inside)]
      split
      next nameless => exact absurd nameless named
      next =>
        simp only [Option.map_some, Option.map_map]
        rfl

end StartTag

end TemplateMarkup
