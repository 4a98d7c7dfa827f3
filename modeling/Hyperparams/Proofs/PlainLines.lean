import Hyperparams.Proofs.Decimal.Digits
import Hyperparams.Proofs.Reporting
import Hyperparams.Proofs.Tokenizing
import Hyperparams.Proofs.Tree.Defects
import Hyperparams.Proofs.Truncation

/-!
# Line breaks in plain lines

The plain line of an event escapes nothing: it has the line breaks of the code, of the message and
of the context. The texts that lowering reports are fixed, numbers, or parts of tokens. So tokens
without line breaks are reported on one line for each event, and a token with a line break can begin
a line with any text.
-/

namespace Hyperparams

namespace Text

/-- Whether a character ends a line: the line feed, and all others that Unicode breaks lines at. -/
def isLineBreak (c : Char) : Bool :=
  let n := c.toNat
  (10 ≤ n && n ≤ 13) || n == 0x85 || n == 0x2028 || n == 0x2029

def lineBreaks (text : String) : List Char :=
  text.toList.filter isLineBreak

def OneLine (text : String) : Prop :=
  lineBreaks text = []

instance (text : String) : Decidable (OneLine text) :=
  inferInstanceAs (Decidable (_ = _))

variable {a b : String} {parts : List String}

theorem lineBreaks_append (a b : String) : lineBreaks (a ++ b) = lineBreaks a ++ lineBreaks b := by
  rw [lineBreaks, String.toList_append, List.filter_append]
  rfl

/-- A separator on one line adds no line break. -/
theorem lineBreaks_intercalate {separator : String} (h : OneLine separator) (parts : List String) :
    lineBreaks (separator.intercalate parts) = parts.flatMap lineBreaks := by
  induction parts with
  | nil => rfl
  | cons part rest ih =>
      cases rest with
      | nil => simp
      | cons next rest =>
          rw [String.intercalate_cons_cons, lineBreaks_append, lineBreaks_append, h, ih,
            List.append_nil]
          rfl

@[simp]
theorem oneLine_append : OneLine (a ++ b) ↔ OneLine a ∧ OneLine b := by
  rw [OneLine, lineBreaks_append, List.append_eq_nil_iff]
  rfl

theorem oneLine_iff {text : String} : OneLine text ↔ ∀ c ∈ text.toList, isLineBreak c = false := by
  simp [OneLine, lineBreaks]

@[simp]
theorem oneLine_toString {text : String} : OneLine (toString text) ↔ OneLine text :=
  Iff.rfl

/-- The digits of a number are on one line. -/
theorem oneLine_toString_nat (n : Nat) : OneLine (toString n) := by
  rw [oneLine_iff, Decimal.toList_toString]
  intro c hc
  have hdigits := (Decimal.isDigits_iff.mp (Decimal.isDigits_toDigits n)).2
  have hdigit := Decimal.isDigit_cases (hdigits c hc)
  simp only [isLineBreak, Bool.or_eq_false_iff, Bool.and_eq_false_iff, decide_eq_false_iff_not,
    beq_eq_false_iff_ne]
  omega

@[simp]
theorem oneLine_repr (n : Nat) : OneLine n.repr :=
  oneLine_toString_nat n

/-- The beginning of a line is on one line. -/
theorem OneLine.of_prefix (h : OneLine b) (hfront : a.toList <+: b.toList) : OneLine a := by
  rw [oneLine_iff] at h ⊢
  exact fun c hc => h c (hfront.subset hc)

end Text

open Text

namespace Log

/-- A message stays on one line when it is cut. -/
theorem oneLine_truncate {message : String} (h : OneLine message) : OneLine (truncate message) := by
  by_cases hlong : Limits.logMessage < message.utf8ByteSize
  · obtain ⟨cut, kept, hcut⟩ := exists_cutAt hlong
    rw [hcut.truncate_eq hlong]
    exact oneLine_append.mpr ⟨h.of_prefix hcut.isPrefix, by decide⟩
  · rwa [truncate_of_le (Nat.not_lt.mp hlong)]

namespace Event

def parts (e : Event) : List String :=
  e.code.text :: e.message :: e.context.entries.flatMap fun (name, text) => [name, text]

theorem lineBreaks_contextText (e : Event) :
    lineBreaks e.contextText =
      (e.context.entries.flatMap fun (name, text) => [name, text]).flatMap lineBreaks := by
  unfold contextText
  split
  next hnone =>
    rw [List.isEmpty_iff.mp hnone]
    rfl
  next =>
    have hopen : lineBreaks " \x7b" = [] := rfl
    have hclose : lineBreaks "\x7d" = [] := rfl
    have hequals : lineBreaks "=" = [] := rfl
    have hcomma : OneLine ", " := by decide
    dsimp only
    rw [lineBreaks_append, lineBreaks_append, hopen, hclose, lineBreaks_intercalate hcomma,
      List.flatMap_map, List.flatMap_assoc, List.append_nil, List.nil_append]
    refine List.flatMap_congr fun entry _ => ?_
    simp [lineBreaks_append, hequals]

/-- The line breaks of a plain line are those of the texts of the event. -/
theorem lineBreaks_line (e : Event) : lineBreaks e.line = e.parts.flatMap lineBreaks := by
  have hopen : lineBreaks "[" = [] := rfl
  have hclose : lineBreaks "] " = [] := rfl
  have hdash : lineBreaks " - " = [] := rfl
  have hlabel : lineBreaks e.level.label = [] := by cases e.level <;> rfl
  simp [line, body, parts, lineBreaks_append, lineBreaks_contextText, hopen, hclose, hdash, hlabel]

/-- The plain line of an event with one named text. -/
theorem line_single (level : Level) (code : Code) (message name text : String) :
    (Event.mk level code message (.ofList [(name, text)])).line =
      "[" ++ level.label ++ "] " ++ code.text ++ " - " ++ message ++ " \x7b" ++ name ++ "=" ++
        text ++ "\x7d" := by
  simp [line, body, contextText, Sorted.ofList, Sorted.insert, String.append_assoc]

/-- An event is on one line if its texts are. -/
theorem oneLine_make {level : Level} {code : Code} {message : String}
    {context : List (String × String)} (hcode : OneLine code.text) (hmessage : OneLine message)
    (hcontext : ∀ entry ∈ context, OneLine entry.1 ∧ OneLine entry.2) :
    OneLine (make level code message context).line := by
  rw [OneLine, lineBreaks_line, parts, List.flatMap_eq_nil_iff]
  have hsorted : ∀ entry ∈ Sorted.ofList context, OneLine entry.1 ∧ OneLine entry.2 :=
    fun entry hentry => hcontext entry (Sorted.mem_of_mem_ofList hentry)
  refine List.forall_mem_cons.mpr ⟨hcode, List.forall_mem_cons.mpr
    ⟨oneLine_truncate hmessage, List.forall_mem_flatMap.mpr fun entry hentry => ?_⟩⟩
  obtain ⟨hname, htext⟩ := hsorted entry hentry
  exact List.forall_mem_cons.mpr ⟨hname, List.forall_mem_singleton.mpr htext⟩

end Event

def Traced.OneLined {ε α : Type} (x : Traced ε α) : Prop :=
  ∀ event ∈ x.events, OneLine event.line

namespace Traced

variable {ε α β : Type} {x : Traced ε α} {f : α → Traced ε β} {event : Event} {events : List Event}

theorem oneLined_ofExcept (x : Except ε α) : (ofExcept x).OneLined :=
  List.forall_mem_nil _

theorem oneLined_emit (h : OneLine event.line) : (emit event : Traced ε Unit).OneLined :=
  List.forall_mem_singleton.mpr h

theorem oneLined_failWith {e : ε} (h : OneLine event.line) :
    (failWith e event : Traced ε α).OneLined :=
  List.forall_mem_singleton.mpr h

/-- The events of a sequence are those of its parts. -/
theorem OneLined.bind (h : x.OneLined) (hf : ∀ a, x.result = .ok a → (f a).OneLined) :
    (x >>= f).OneLined := by
  intro event hevent
  rcases mem_events_bind hevent with hfirst | ⟨a, ha, hrest⟩
  · exact h event hfirst
  · exact hf a ha event hrest

theorem OneLined.after (h : x.OneLined) (hevents : ∀ event ∈ events, OneLine event.line) :
    (x.after events).OneLined :=
  List.forall_mem_append.mpr ⟨hevents, h⟩

theorem OneLined.mapError {ε' : Type} (h : x.OneLined) (f : ε → ε') : (x.mapError f).OneLined :=
  h

/-- A value that is given after an event. -/
theorem oneLined_emit_pure {a : α} (h : OneLine event.line) :
    (do emit event; return a : Traced ε α).OneLined :=
  (oneLined_emit h).bind fun _ _ => oneLined_ofExcept (.ok a)

end Traced

end Log

open Log

theorem Value.oneLine_kind (v : Value) : OneLine v.kind := by
  unfold kind
  split <;> decide

section Tokens

open Tokenized

variable {prefs : Preferences.Tokenizing} {tokens : List String} {t : Tokenized}

/-- The key of a token on one line is on one line. -/
theorem oneLine_of_key? {token key : String} {position : Nat} (h : OneLine token)
    (hkey : key? token position = .ok key) : OneLine key := by
  rw [eq_flag_of_key? hkey, oneLine_append] at h
  exact h.2

theorem TokenError.oneLine_code (e : TokenError) : OneLine e.code.text := by
  unfold code
  split <;> decide

theorem oneLine_of_key?_error {token : String} {position : Nat} {e : TokenError} (h : OneLine token)
    (hkey : key? token position = .error e) : OneLine e.event.line := by
  unfold key? at hkey
  split at hkey
  · dsimp only at hkey
    split at hkey
    · cases hkey
      exact Event.oneLine_make (TokenError.oneLine_code _) (by cbv) (by simp +decide)
    · split at hkey
      · cases hkey
        exact Event.oneLine_make (TokenError.oneLine_code _) (by cbv) (by simp +decide)
      · cases hkey
  · cases hkey
    exact Event.oneLine_make (TokenError.oneLine_code _) (by cbv) (by simp +decide [h])

theorem oneLine_pairEvents {key raw : String} (hkey : OneLine key) (hraw : OneLine raw)
    (position : Nat) : ∀ event ∈ pairEvents prefs key raw position, OneLine event.line := by
  have hkind := (Value.infer raw).oneLine_kind
  unfold pairEvents
  refine List.forall_mem_append.mpr ⟨?_, ?_⟩ <;> split
  · exact List.forall_mem_singleton.mpr
      (Event.oneLine_make (by decide) (by cbv) (by simp +decide [hkey, hraw]))
  · exact List.forall_mem_nil _
  · exact List.forall_mem_singleton.mpr
      (Event.oneLine_make (by decide) (by cbv) (by simp +decide [hkey, hkind]))
  · exact List.forall_mem_nil _

/-- Tokens on one line are scanned with events on one line. -/
theorem oneLined_scan {position : Nat} (h : ∀ token ∈ tokens, OneLine token) :
    (t.scan prefs position tokens).2.OneLined := by
  fun_induction scan prefs t position tokens with
  | case1 => exact Traced.oneLined_ofExcept (.ok ())
  | case2 t position flag rest e hkey =>
      exact Traced.oneLined_failWith (oneLine_of_key?_error (h _ List.mem_cons_self) hkey)
  | case3 t position flag key hkey =>
      have hline := oneLine_of_key? (h _ List.mem_cons_self) hkey
      exact Traced.oneLined_failWith (Event.oneLine_make (TokenError.oneLine_code _)
        (by cbv) (by simp +decide [hline]))
  | case4 t position flag key hkey raw rest hlong =>
      have hline := oneLine_of_key? (h _ List.mem_cons_self) hkey
      exact Traced.oneLined_failWith (Event.oneLine_make (TokenError.oneLine_code _)
        (by cbv) (by simp +decide [hline]))
  | case5 t position flag key hkey raw rest hshort t' outcome hscan ih =>
      obtain ⟨hflag, hraw, hrest⟩ : OneLine flag ∧ OneLine raw ∧ ∀ token ∈ rest, OneLine token := by
        simpa using h
      rw [hscan] at ih
      exact (ih hrest).after (oneLine_pairEvents (oneLine_of_key? hflag hkey) hraw position)

theorem oneLined_tokenize (h : ∀ token ∈ tokens, OneLine token) :
    (tokenize prefs tokens).OneLined := by
  unfold tokenize Tokenizer.run
  dsimp only
  split
  · exact Traced.oneLined_failWith
      (Event.oneLine_make (TokenError.oneLine_code _) (by cbv) (by simp +decide))
  · apply (oneLined_scan h).bind
    intro _ _
    exact Traced.oneLined_emit_pure
      (Event.oneLine_make (by decide) (by cbv) (by simp +decide))

/-- The keys of tokens on one line are on one line. -/
theorem oneLine_keys (h : ∀ token ∈ tokens, OneLine token)
    (ht : (tokenize prefs tokens).result = .ok t) : ∀ key ∈ t.args.keys, OneLine key := by
  have hrun : (({ preferences := prefs } : Tokenizer).run tokens).2.result = .ok t := ht
  obtain ⟨pairs, rfl, hgathers, -⟩ := exists_pairs_of_run hrun
  intro key hkey
  rw [hgathers.keys, List.mem_eraseDups] at hkey
  obtain ⟨pair, hpair, rfl⟩ := List.mem_map.mp hkey
  have hflag : "--" ++ pair.1 ∈ flagTokens pairs :=
    List.mem_flatMap.mpr ⟨pair, hpair, List.mem_cons_self⟩
  exact (oneLine_append.mp (h _ hflag)).2

end Tokens

namespace Partition

variable {args : Arguments}

theorem oneLined_checked (h : ∀ key ∈ args.keys, OneLine key) : (checked args).OneLined := by
  have hcheck : (ofArguments args).check.OneLined := by
    unfold check
    split
    next key hconflict =>
      have hplain : key ∈ (ofArguments args).plain.keys := List.mem_of_find?_eq_some hconflict
      rw [Arguments.keys, toList_plain] at hplain
      have hkey := h key ((List.filter_sublist.map Prod.fst).subset hplain)
      have hcode : OneLine (PartitionError.conflictingKeys key).code.text := by
        simp only [PartitionError.code]
        decide
      exact Traced.oneLined_failWith
        (Event.oneLine_make hcode (by cbv) (by simp +decide [hkey]))
    next => exact Traced.oneLined_ofExcept (.ok ())
  exact hcheck.bind fun _ _ => Traced.oneLined_emit_pure
    (Event.oneLine_make (by decide) (by cbv) (by simp +decide))

theorem oneLine_compound (h : ∀ key ∈ args.keys, OneLine key) :
    ∀ key ∈ (ofArguments args).compound.keys, OneLine key := by
  intro key hkey
  rw [Arguments.keys, toList_compound] at hkey
  exact h key ((List.filter_sublist.map Prod.fst).subset hkey)

end Partition

theorem TreeError.oneLine_code (e : TreeError) : OneLine e.code.text := by
  unfold code
  split <;> decide

namespace Forest

variable {prefs : Preferences.Building} {entries : List (String × Value)} {c : Arguments}

/-- Both parts of a key on one line are on one line. -/
theorem oneLine_of_splitKey? {key owner segment : String} (h : OneLine key)
    (hsplit : splitKey? key = some (owner, segment)) : OneLine owner ∧ OneLine segment := by
  rw [(splitKey?_eq_some_iff.mp hsplit).1, oneLine_append, oneLine_append] at h
  exact ⟨h.1.1, h.2⟩

theorem oneLine_text_ofSegment {segment : String} (h : OneLine segment) :
    OneLine (Slot.ofSegment segment).text := by
  unfold Slot.ofSegment
  split
  · exact oneLine_repr _
  · exact h

/-- The paths of objects are parts of keys. -/
theorem oneLine_owner (h : ∀ key ∈ entries.map Prod.fst, OneLine key) {owner : String}
    (howner : owner ∈ owners entries) : OneLine owner := by
  have hkey := h _ (mem_owners_iff.mp howner)
  rw [keyUnder, oneLine_append, oneLine_append] at hkey
  exact hkey.1.1

/-- What claims a slot is named by parts of keys. -/
theorem Claims.oneLine (h : ∀ key ∈ entries.map Prod.fst, OneLine key) {claimant : Claimant}
    {owner segment : String} (hclaims : Claims entries claimant owner segment) :
    OneLine claimant.key ∧ OneLine owner ∧ OneLine segment := by
  refine ⟨h _ hclaims.key_mem, ?_⟩
  cases hclaims with
  | argument hentry hsplit => exact oneLine_of_splitKey? (h _ (List.mem_map_of_mem hentry)) hsplit
  | object hpath hsplit => exact oneLine_of_splitKey? (oneLine_owner h hpath) hsplit

/-- The message of an error is made of parts of keys. -/
theorem Defect.oneLine_message (h : ∀ key ∈ entries.map Prod.fst, OneLine key) {e : TreeError}
    (hdefect : Defect entries e) : OneLine e.message := by
  unfold TreeError.message
  cases hdefect with
  | @emptySegment key hkey =>
      have hkey : OneLine key := h key hkey
      simp only [oneLine_append, oneLine_toString, hkey]
      cbv
  | nestingTooDeep howner =>
      have howner := oneLine_owner h howner
      simp only [oneLine_append, oneLine_toString, howner, oneLine_toString_nat]
      cbv
  | @invalidClassReference owner value hclass =>
      have hkind := value.oneLine_kind
      have howner := oneLine_owner h (mem_owners_iff.mpr (List.mem_map_of_mem hclass))
      simp only [oneLine_append, oneLine_toString, howner, hkind]
      cbv
  | tooManyObjects =>
      simp only [oneLine_append, oneLine_toString, oneLine_toString_nat]
      cbv
  | missingClassDeclaration hclaims =>
      obtain ⟨hkey, howner, -⟩ := hclaims.oneLine h
      simp only [oneLine_append, oneLine_toString, hkey, howner]
      cbv
  | positionalIndexTooLarge hclaims =>
      obtain ⟨hkey, -, hsegment⟩ := hclaims.oneLine h
      simp only [oneLine_append, oneLine_toString, hkey, hsegment]
      cbv
  | duplicateArgument hpath _ ha _ hs =>
      obtain ⟨-, howner, hsegment⟩ := ha.oneLine h
      have htext := oneLine_text_ofSegment hsegment
      rw [hs] at htext
      simp only [oneLine_append, oneLine_toString, howner, htext]
      cbv

/-- Compound entries that no forest is built from have a defect. -/
theorem defect_of_build (hkeys : ∀ key ∈ c.keys, isCompoundKey key = true) {e : TreeError}
    (h : (build prefs c).result = .error e) : Defect c.toList e := by
  rcases build_result_eq_error h with hdeclare | ⟨declared, hdeclared, h⟩
  · have hentries : ∀ entry ∈ c.toList, isCompoundKey entry.1 = true :=
      fun entry hentry => hkeys entry.1 (List.mem_map_of_mem hentry)
    exact (defect_of_declareAll hentries hdeclare).1
  · obtain ⟨-, -, hdeclares⟩ := declareAll_eq_ok_iff.mp hdeclared
    rcases h with hplace | ⟨placed, hplaced, hattach⟩
    · exact defect_of_placeAll c.keys_nodup hdeclares hplace
    · obtain ⟨-, hpaths, hholds⟩ := placeAll_eq_ok hplaced
      have hplacedHolds := hholds _ _ (holds_of_declares hdeclares)
      rw [List.append_nil] at hplacedHolds
      exact defect_of_attachAll (owners_nodup c.keys_nodup)
        (hpaths.trans (paths_of_declares hdeclares)) hplacedHolds hattach

theorem oneLined_attach {nodes : List Node} {path : String} (h : OneLine path) :
    (attach prefs nodes path).OneLined := by
  unfold attach
  split
  next parent segment child hsplit _ =>
    obtain ⟨hparent, hsegment⟩ := oneLine_of_splitKey? h hsplit
    apply (Traced.oneLined_ofExcept _).bind
    intro slot hslot
    obtain ⟨-, rfl⟩ := Slot.parse_eq_ok_iff.mp hslot
    have hevent : OneLine (attachEvent path parent (Slot.ofSegment segment)).line :=
      Event.oneLine_make (by decide) (by cbv)
        (by simp +decide [h, hparent, oneLine_text_ofSegment hsegment])
    dsimp only
    split
    · exact Traced.oneLined_ofExcept (.error _)
    · split
      · exact (Traced.oneLined_emit hevent).bind fun _ _ => Traced.oneLined_ofExcept _
      · exact Traced.oneLined_ofExcept _
  next => exact Traced.oneLined_ofExcept (.ok nodes)

theorem oneLined_attachAll {nodes : List Node} {paths : List String}
    (h : ∀ path ∈ paths, OneLine path) : (attachAll prefs nodes paths).OneLined := by
  induction paths generalizing nodes with
  | nil => exact Traced.oneLined_ofExcept (.ok nodes)
  | cons path rest ih =>
      obtain ⟨hpath, hrest⟩ := List.forall_mem_cons.mp h
      exact (oneLined_attach hpath).bind fun _ _ => ih hrest

theorem oneLined_ofCompound (h : ∀ key ∈ c.keys, OneLine key) : (ofCompound prefs c).OneLined := by
  unfold ofCompound
  apply (Traced.oneLined_ofExcept _).bind
  intro declared hdeclared
  apply (Traced.oneLined_ofExcept _).bind
  intro placed hplaced
  have hpaths : placed.map Node.path = owners c.toList :=
    (@placeAll_eq_ok _ _ _ [] hplaced).2.1.trans
      (paths_of_declares (declareAll_eq_ok_iff.mp hdeclared).2.2)
  have hnested : ∀ path ∈ nestedPaths placed, OneLine path := fun path hpath =>
    oneLine_owner h
      (List.mem_of_mem_filter ((nestedPaths_perm_nestedOwners hpaths).mem_iff.mp hpath))
  apply (oneLined_attachAll hnested).bind
  intro roots _
  exact Traced.oneLined_ofExcept (.ok _)

/-- Keys on one line are built with events on one line. -/
theorem oneLined_build (hkeys : ∀ key ∈ c.keys, isCompoundKey key = true)
    (h : ∀ key ∈ c.keys, OneLine key) : (build prefs c).OneLined := by
  have hevents : ∀ event ∈ (ofCompound prefs c).events, OneLine event.line := oneLined_ofCompound h
  unfold build
  dsimp only
  split
  next e he =>
    have hdefect : Defect c.toList e := defect_of_build hkeys ((build_result prefs c).trans he)
    refine List.forall_mem_append.mpr ⟨hevents, ?_⟩
    unfold TreeError.events
    split
    · exact List.forall_mem_nil _
    · exact List.forall_mem_singleton.mpr (Event.oneLine_make e.oneLine_code
        (hdefect.oneLine_message h) (List.forall_mem_nil _))
  next f _ =>
    have hevent : OneLine f.event.line :=
      Event.oneLine_make (by decide) (by cbv) (by simp +decide)
    exact List.forall_mem_append.mpr ⟨hevents, List.forall_mem_singleton.mpr hevent⟩

end Forest

/-- What is reported of tokens on one line is on one line for each event. -/
theorem oneLined_lower {prefs : Preferences} {elapsed : String} {tokens : List String}
    (helapsed : OneLine elapsed) (h : ∀ token ∈ tokens, OneLine token) :
    (lower prefs elapsed tokens).OneLined := by
  have htree : ∀ args : Arguments, (∀ key ∈ args.keys, OneLine key) →
      ((Forest.build prefs.building (Partition.ofArguments args).compound).mapError
        LoweringError.tree).OneLined := fun args hkeys =>
    (Forest.oneLined_build (fun _ => Partition.isCompoundKey_of_mem)
      (Partition.oneLine_compound hkeys)).mapError _
  have hlast : ∀ l : Lowered, (do .emit (l.event elapsed); return l :
      Traced LoweringError Lowered).OneLined := fun l =>
    Traced.oneLined_emit_pure
      (Event.oneLine_make (by decide) (by cbv) (by simp +decide [helapsed]))
  have hstart : OneLine (Lowered.startEvent tokens).line :=
    Event.oneLine_make (by decide) (by cbv) (by simp +decide)
  unfold lower
  apply (Traced.oneLined_emit hstart).bind
  intro _ _
  apply ((oneLined_tokenize h).mapError _).bind
  intro t ht
  have hkeys := oneLine_keys h (Outcome.mapError_eq_ok_iff.mp ht)
  dsimp only
  split
  · apply ((Partition.oneLined_checked hkeys).mapError _).bind
    intro p hp
    obtain ⟨-, rfl⟩ := Partition.checked_result_eq_ok_iff.mp (Outcome.mapError_eq_ok_iff.mp hp)
    exact (htree t.args hkeys).bind fun forest _ => hlast (.ofStages t forest)
  · exact (htree t.args hkeys).bind fun forest _ => hlast (.ofStages t forest)

/-- A token that is no flag is reported as it is, so the text after its first line break begins a
line. -/
theorem exists_line_of_token (prefs : Preferences) (elapsed text : String) :
    ∃ event ∈ (lower prefs elapsed ["\n" ++ text]).events, ∃ start,
      event.line = start ++ ("\n" ++ text) ++ "\x7d" := by
  let token := "\n" ++ text
  let e := TokenError.missingFlagPrefix token 0
  have hmessage : truncate "Expected a --flag" = "Expected a --flag" := truncate_of_le (by decide)
  have hevent : e.event =
      ⟨.error, .missingFlagPrefix, "Expected a --flag", .ofList [("token", token)]⟩ := by
    rw [← hmessage]
    rfl
  have hkey : Tokenized.key? token 0 = .error e := by
    simp [Tokenized.key?, token, e]
  have htokens : tokenize prefs.tokenizing [token] = .failWith e e.event := by
    unfold tokenize Tokenizer.run
    simp only [Tokenized.scan, hkey]
    rfl
  have hevents : (lower prefs elapsed [token]).events = [Lowered.startEvent [token], e.event] := by
    unfold lower
    rw [htokens]
    rfl
  refine ⟨e.event, hevents ▸ List.mem_cons_of_mem _ List.mem_cons_self, ?_⟩
  rw [hevent]
  exact ⟨_, Event.line_single _ _ _ _ _⟩

/-- The plain line of an event has the line breaks of the texts of the event. What lowering reports
is on one line for each event if all tokens are on one line; if not, any text can begin a line. -/
theorem lineBreaks_reported (prefs : Preferences) (elapsed : String) :
    (∀ event : Event, lineBreaks event.line = event.parts.flatMap lineBreaks) ∧
      (OneLine elapsed → ∀ tokens : List String, (∀ token ∈ tokens, OneLine token) →
        ∀ event ∈ (lower prefs elapsed tokens).events, OneLine event.line) ∧
      ∀ text, ∃ event ∈ (lower prefs elapsed ["\n" ++ text]).events, ∃ start,
        event.line = start ++ ("\n" ++ text) ++ "\x7d" :=
  ⟨Event.lineBreaks_line, fun helapsed _ htokens => oneLined_lower helapsed htokens,
    exists_line_of_token prefs elapsed⟩

/-- A suspicious value on one line is reported on one line. -/
theorem lineBreaks_reported_suspicious : OneLine "0" ∧
    (∀ token ∈ ["--lr", "--fast"], OneLine token) ∧
    ∀ event ∈ (lower {} "0" ["--lr", "--fast"]).events, OneLine event.line := by
  have helapsed : OneLine "0" := by decide
  have htokens : ∀ token ∈ ["--lr", "--fast"], OneLine token := by decide
  exact ⟨helapsed, htokens, (lineBreaks_reported {} "0").2.1 helapsed _ htokens⟩

/-- A token whose second line looks like a line of the log. -/
def forgedToken : String :=
  "\n[ERROR] E052 - Constructor failed"

/-- A token with a line break is reported on more than one line. -/
theorem not_oneLine_forgedToken :
    ∃ event ∈ (lower {} "0" [forgedToken]).events, ¬ OneLine event.line := by
  decide +kernel

end Hyperparams
