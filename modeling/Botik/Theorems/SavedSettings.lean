import Botik.AppService.Settings
import Botik.Library.Runs
import Botik.Library.Text

/-!
# Settings that are saved and read

Every save reads the whole file and writes it again, and neither way is the other one's inverse: a
value comes back without the quotes and blanks at its ends, and a value read so may lose more when
it is written again. A setting is what was saved last, whatever is saved for others afterwards,
exactly where its value has no quote at its ends and no blank at its ends that is not protected by
quotes.

## Main definitions

* `Settings.reload` — a value that was written and read
* `Settings.Stable` — a value that comes back
* `Settings.Plain` — settings as a file has them

## Main results

* `Settings.parseLine_envLine`, `Settings.readEnvFile_writeEnvFile` — a line, and the whole file
* `settings_round_trip`
* `Settings.get?_saved` — one save
* `setting_kept_iff_stable` — the saves of a run
-/

namespace Botik.AppService

open EnvFile
open Text (isSpace)

/-- A value without the characters that end a line. -/
def OneLine (value : String) : Prop := ∀ c ∈ value.toList, isLineEnd c = false

instance (value : String) : Decidable (OneLine value) :=
  List.decidableBAll (fun c => isLineEnd c = false) value.toList

namespace Settings

/-- A value that was written and read again. -/
def reload (value : String) : String := String.ofList (unquote (escaped value).toList)

/-- No quote at an end, and no blank at an end unless the value is written between quotes. -/
structure Stable (value : String) : Prop where
  first : ∀ c ∈ value.toList.head?, c ≠ '"' ∧ c ≠ '\''
  last : ∀ c ∈ value.toList.getLast?, c ≠ '"' ∧ c ≠ '\''
  blanks : ' ' ∈ value.toList ∨ '"' ∈ value.toList ∨
    (∀ c ∈ value.toList.head?, isSpace c = false) ∧ ∀ c ∈ value.toList.getLast?, isSpace c = false

/-- A key as a file has it. -/
structure PlainKey (key : String) : Prop where
  noEquals : '=' ∉ key.toList
  oneLine : OneLine key
  trimmed : Lines.trim isSpace key.toList = key.toList
  noComment : key.toList.head? ≠ some '#'

/-- Settings as a file has them. -/
structure Plain (d : Dict String String) : Prop where
  keys : ∀ e ∈ d.entries, PlainKey e.1
  values : ∀ e ∈ d.entries, OneLine e.2

section Values

variable {key value : String}

theorem toList_reload : (reload value).toList = unquote (escaped value).toList := by
  rw [reload, String.toList_ofList]

/-- A value between double quotes loses the quotes at its ends. -/
theorem unquote_quoted (value : String) :
    unquote ("\"" ++ value ++ "\"").toList =
      Lines.trim (· = '\'') (Lines.trim (· = '"') value.toList) := by
  have hquoted : ("\"" ++ value ++ "\"").toList = '"' :: value.toList ++ ['"'] := by
    rw [String.toList_append, String.toList_append]
    rfl
  have hblanks : Lines.trim isSpace ('"' :: value.toList ++ ['"']) =
      '"' :: value.toList ++ ['"'] := by
    refine Lines.trim_eq_self_iff.mpr ⟨?_, ?_⟩
    · intro c hc
      obtain rfl := Option.some.inj hc
      decide
    · intro c hc
      rw [List.getLast?_concat] at hc
      obtain rfl := Option.some.inj hc
      decide
  rw [hquoted, unquote, hblanks, Lines.trim_concat_of_pos (by decide),
    Lines.trim_cons_of_pos (by decide)]

/-- A value without double quotes loses blanks and single quotes. -/
theorem unquote_bare {cs : List Char} (h : '"' ∉ cs) :
    unquote cs = Lines.trim (· = '\'') (Lines.trim isSpace cs) := by
  have hquotes : Lines.trim (· = '"') (Lines.trim isSpace cs) = Lines.trim isSpace cs := by
    have hmem : '"' ∉ Lines.trim isSpace cs := fun hc => h ((Lines.trim_sublist cs).subset hc)
    refine Lines.trim_eq_self_iff.mpr ⟨?_, ?_⟩
    · intro c hc
      refine decide_eq_false ?_
      rintro rfl
      exact hmem (List.mem_of_mem_head? hc)
    · intro c hc
      refine decide_eq_false ?_
      rintro rfl
      exact hmem (List.mem_of_getLast? hc)
  rw [unquote, hquotes]

/-- Nothing is added to a value. -/
theorem reload_sublist (value : String) : (reload value).toList.Sublist value.toList := by
  rw [toList_reload, escaped]
  split_ifs with hquoted
  · rw [unquote_quoted]
    exact (Lines.trim_sublist _).trans (Lines.trim_sublist _)
  · rw [unquote_bare fun hc => hquoted (Or.inr hc)]
    exact (Lines.trim_sublist _).trans (Lines.trim_sublist _)

/-- Two kinds of characters are removed one after the other, and nothing is lost. -/
theorem trim_trim_eq_self_iff {p q : Char → Bool} {cs : List Char} :
    Lines.trim p (Lines.trim q cs) = cs ↔
      (∀ c ∈ cs.head?, p c = false ∧ q c = false) ∧
        ∀ c ∈ cs.getLast?, p c = false ∧ q c = false := by
  constructor
  · intro h
    have hinner : Lines.trim q cs = cs := by
      refine (Lines.trim_sublist cs).eq_of_length_le ?_
      conv_lhs => rw [← h]
      exact (Lines.trim_sublist _).length_le
    rw [hinner] at h
    obtain ⟨hhead, hlast⟩ := Lines.trim_eq_self_iff.mp h
    obtain ⟨hhead', hlast'⟩ := Lines.trim_eq_self_iff.mp hinner
    exact ⟨fun c hc => ⟨hhead c hc, hhead' c hc⟩, fun c hc => ⟨hlast c hc, hlast' c hc⟩⟩
  · rintro ⟨hhead, hlast⟩
    have hinner : Lines.trim q cs = cs :=
      Lines.trim_eq_self_iff.mpr ⟨fun c hc => (hhead c hc).2, fun c hc => (hlast c hc).2⟩
    rw [hinner]
    exact Lines.trim_eq_self_iff.mpr ⟨fun c hc => (hhead c hc).1, fun c hc => (hlast c hc).1⟩

/-- A value comes back exactly where it is stable. -/
theorem reload_eq_self_iff : reload value = value ↔ Stable value := by
  rw [← String.toList_inj, toList_reload, escaped]
  split_ifs with hquoted
  · rw [unquote_quoted, trim_trim_eq_self_iff]
    simp only [decide_eq_false_iff_not]
    constructor
    · rintro ⟨hfirst, hlast⟩
      exact ⟨fun c hc => (hfirst c hc).symm, fun c hc => (hlast c hc).symm,
        hquoted.elim Or.inl fun h => Or.inr (Or.inl h)⟩
    · rintro ⟨hfirst, hlast, -⟩
      exact ⟨fun c hc => (hfirst c hc).symm, fun c hc => (hlast c hc).symm⟩
  · have hspace : ' ' ∉ value.toList := fun h => hquoted (Or.inl h)
    have hdouble : '"' ∉ value.toList := fun h => hquoted (Or.inr h)
    have hne : ∀ {c : Char}, c ∈ value.toList → c ≠ '"' := by
      rintro c hc rfl
      exact hdouble hc
    rw [unquote_bare hdouble, trim_trim_eq_self_iff]
    simp only [decide_eq_false_iff_not]
    constructor
    · rintro ⟨hfirst, hlast⟩
      exact ⟨fun c hc => ⟨hne (List.mem_of_mem_head? hc), (hfirst c hc).1⟩,
        fun c hc => ⟨hne (List.mem_of_getLast? hc), (hlast c hc).1⟩,
        Or.inr (Or.inr ⟨fun c hc => (hfirst c hc).2, fun c hc => (hlast c hc).2⟩)⟩
    · rintro ⟨hfirst, hlast, hblanks⟩
      have hends := (hblanks.resolve_left hspace).resolve_left hdouble
      exact ⟨fun c hc => ⟨(hfirst c hc).2, hends.1 c hc⟩,
        fun c hc => ⟨(hlast c hc).2, hends.2 c hc⟩⟩

end Values

/-! ### The file -/

section File

variable {key value : String} {d : Dict String String}

/-- A line that was written is read as its key and the value that comes back. -/
theorem parseLine_envLine (hkey : PlainKey key) (value : String) :
    parseLine (envLine key value) = some (key, reload value) := by
  have hfirst := (Lines.trim_eq_self_iff.mp hkey.trimmed).1
  have hline : Lines.trim isSpace (envLine key value) =
      key.toList ++ '=' :: (escaped value).toList.rdropWhile isSpace :=
    Lines.trim_append_cons hfirst (by decide) _
  have hbefore : ∀ c ∈ key.toList, decide (c ≠ '=') = true := by
    intro c hc
    refine decide_eq_true ?_
    rintro rfl
    exact hkey.noEquals hc
  have hcomment : (key.toList ++ '=' :: (escaped value).toList.rdropWhile isSpace).head? ≠
      some '#' := by
    rw [List.head?_append]
    cases hhead : key.toList.head? with
    | none => simp
    | some c =>
      rintro heq
      exact hkey.noComment (hhead.trans heq)
  have hsetting : ¬ (key.toList ++ '=' :: (escaped value).toList.rdropWhile isSpace = [] ∨
      (key.toList ++ '=' :: (escaped value).toList.rdropWhile isSpace).head? = some '#' ∨
      '=' ∉ key.toList ++ '=' :: (escaped value).toList.rdropWhile isSpace) := by
    rintro (hnil | hhash | hnone)
    · exact List.append_ne_nil_of_right_ne_nil _ (List.cons_ne_nil _ _) hnil
    · exact hcomment hhash
    · exact hnone (List.mem_append_right _ List.mem_cons_self)
  unfold parseLine
  dsimp only
  rw [hline, if_neg hsetting, List.takeWhile_append_of_pos hbefore,
    List.dropWhile_append_of_pos hbefore, List.takeWhile_cons_of_neg (by simp),
    List.dropWhile_cons_of_neg (by simp), List.append_nil, hkey.trimmed, List.tail_cons, unquote,
    Lines.trim_rdropWhile, String.ofList_toList]
  rfl

/-- What a line gives is plain. -/
theorem plain_of_parseLine {raw : List Char} {setting : String × String}
    (hraw : ∀ c ∈ raw, isLineEnd c = false) (h : parseLine raw = some setting) :
    PlainKey setting.1 ∧ OneLine setting.2 := by
  unfold parseLine at h
  dsimp only at h
  split_ifs at h with hskipped
  obtain rfl := Option.some.inj h
  push Not at hskipped
  let line := Lines.trim isSpace raw
  have hone : ∀ {cs : List Char}, cs.Sublist line → ∀ c ∈ (String.ofList cs).toList,
      isLineEnd c = false := by
    intro cs hcs c hc
    rw [String.toList_ofList] at hc
    exact hraw c (((hcs.trans (Lines.trim_sublist raw)).subset) hc)
  have hkey : (Lines.trim isSpace (line.takeWhile (· ≠ '='))).Sublist (line.takeWhile (· ≠ '=')) :=
    Lines.trim_sublist _
  refine ⟨⟨?_, ?_, ?_, ?_⟩, ?_⟩
  · rw [String.toList_ofList]
    intro hmem
    have hne := List.mem_takeWhile_imp (hkey.subset hmem)
    simp at hne
  · exact hone (hkey.trans (List.takeWhile_prefix _).sublist)
  · rw [String.toList_ofList]
    exact Lines.trim_trim _
  · rw [String.toList_ofList]
    -- the line begins with no blank, and neither does its key
    have hfirst : ∀ c ∈ (line.takeWhile (· ≠ '=')).head?, line.head? = some c := by
      intro c hc
      cases hcs : line with
      | nil =>
        rw [hcs] at hc
        cases hc
      | cons b cs =>
        rw [hcs, List.takeWhile_cons] at hc
        split_ifs at hc
        · exact hc
        · cases hc
    rw [Lines.head?_trim_of_head fun c hc => Lines.head?_trim raw c (hfirst c hc)]
    intro hhash
    exact hskipped.2.1 (hfirst '#' hhash)
  · refine hone ?_
    have hvalue : (line.dropWhile (· ≠ '=')).tail.Sublist line :=
      (List.tail_sublist _).trans (List.dropWhile_suffix _).sublist
    exact (((Lines.trim_sublist _).trans (Lines.trim_sublist _)).trans
      (Lines.trim_sublist _)).trans hvalue

theorem Plain.set (h : Plain d) (hkey : PlainKey key) (hvalue : OneLine value) :
    Plain (d.set key value) := by
  have hall : ∀ e ∈ (d.set key value).entries, PlainKey e.1 ∧ OneLine e.2 := by
    rintro ⟨k, v⟩ he
    have hget := Dict.mem_entries_iff.mp he
    rw [Dict.get?_set] at hget
    split_ifs at hget with hk
    · obtain rfl := Option.some.inj hget
      exact hk ▸ ⟨hkey, hvalue⟩
    · have hold := Dict.mem_entries_iff.mpr hget
      exact ⟨h.keys _ hold, h.values _ hold⟩
  exact ⟨fun e he => (hall e he).1, fun e he => (hall e he).2⟩

theorem plain_empty : Plain .empty := ⟨by simp, by simp⟩

/-- The settings of a file are plain, whatever is in it. -/
theorem plain_readEnvFile (text : List Char) : Plain (readEnvFile text) := by
  have hsettings : ∀ setting ∈ (Lines.split isLineEnd (TextFile.newlines false text)).filterMap
      parseLine, PlainKey setting.1 ∧ OneLine setting.2 := by
    intro setting hsetting
    obtain ⟨raw, hraw, hparse⟩ := List.mem_filterMap.mp hsetting
    exact plain_of_parseLine (Lines.forall_mem_split _ raw hraw) hparse
  unfold readEnvFile
  generalize (Lines.split isLineEnd (TextFile.newlines false text)).filterMap parseLine = settings
    at hsettings
  have hfold : ∀ d : Dict String String, Plain d →
      Plain (settings.foldl (fun result setting => result.set setting.1 setting.2) d) := by
    induction settings with
    | nil => exact fun d hd => hd
    | cons setting settings ih =>
      obtain ⟨⟨hkey, hvalue⟩, hrest⟩ := List.forall_mem_cons.mp hsettings
      exact fun d hd => ih hrest _ (hd.set hkey hvalue)
  exact hfold .empty plain_empty

theorem plain_current (file : Option (List Char)) : Plain (current file) := by
  cases file with
  | none => exact plain_empty
  | some text => exact plain_readEnvFile text

/-- A line that is written has no end in it. -/
theorem oneLine_envLine (hkey : PlainKey key) (hvalue : OneLine value) :
    ∀ c ∈ envLine key value, isLineEnd c = false := by
  intro c hc
  rcases List.mem_append.mp hc with hmem | htail
  · exact hkey.oneLine c hmem
  · rcases List.mem_cons.mp htail with rfl | hmem
    · decide
    · unfold escaped at hmem
      split_ifs at hmem
      · rw [String.toList_append, String.toList_append] at hmem
        rcases List.mem_append.mp hmem with hfront | hquote
        · rcases List.mem_append.mp hfront with hquote | hvalue'
          · obtain rfl := List.mem_singleton.mp hquote
            decide
          · exact hvalue c hvalue'
        · obtain rfl := List.mem_singleton.mp hquote
          decide
      · exact hvalue c hmem

/-- Settings that are written and read again keep their keys and their order, and every value comes
back as it does alone. -/
theorem readEnvFile_writeEnvFile (h : Plain d) :
    readEnvFile (writeEnvFile d) = d.mapValues reload := by
  let lines := d.entries.map fun e => envLine e.1 e.2
  have hlines : ∀ line ∈ lines, ∀ c ∈ line, isLineEnd c = false := by
    intro line hline
    obtain ⟨e, he, rfl⟩ := List.mem_map.mp hline
    exact oneLine_envLine (h.keys e he) (h.values e he)
  have hreturn : '\r' ∉ writeEnvFile d := by
    intro hmem
    rcases List.mem_append.mp hmem with hjoined | hlast
    · rcases Lines.mem_joined hjoined with heq | ⟨line, hline, hc⟩
      · exact absurd heq (by decide)
      · exact absurd (hlines line hline _ hc) (by decide)
    · exact absurd (List.mem_singleton.mp hlast) (by decide)
  have hsettings : (Lines.split isLineEnd (writeEnvFile d)).filterMap parseLine =
      (d.mapValues reload).entries := by
    by_cases hne : lines = []
    · have hnil : d.entries = [] := List.map_eq_nil_iff.mp hne
      have hempty : (d.mapValues reload).entries = [] := by
        simp [Dict.mapValues, hnil]
      rw [hempty, writeEnvFile, hnil]
      rfl
    · rw [writeEnvFile, Lines.split_joined_concat (by decide) hne hlines, List.filterMap_map]
      refine (List.filterMap_congr fun e he => parseLine_envLine (h.keys e he) e.2).trans ?_
      exact congrFun List.filterMap_eq_map d.entries
  rw [readEnvFile, TextFile.newlines_of_not_mem hreturn, hsettings]
  exact Dict.foldl_set_entries _

end File

/-! ### Saves -/

section Saves

variable {key value : String} {r : SettingsSaveRequest}

/-- What a request has for a key. -/
def update? (r : SettingsSaveRequest) (key : String) : Option String :=
  (r.updates.find? fun u => u.1 = key).bind Prod.snd

/-- No value of the request has a character that ends a line. -/
def RequestOneLine (r : SettingsSaveRequest) : Prop :=
  ∀ u ∈ r.updates, ∀ value ∈ u.2, OneLine value

instance (r : SettingsSaveRequest) : Decidable (RequestOneLine r) :=
  inferInstanceAs (Decidable (∀ u ∈ r.updates, ∀ value ∈ u.2, OneLine value))

/-- The file after a save that succeeds. -/
def saved (r : SettingsSaveRequest) (file : Option (List Char)) : Option (List Char) :=
  (save none r file).2

theorem nodup_updates (r : SettingsSaveRequest) : (r.updates.map Prod.fst).Nodup := by
  change ["BYBIT_API_KEY", "BYBIT_API_SECRET", "BYBIT_MAINNET_API_KEY", "BYBIT_MAINNET_API_SECRET",
    "TELEGRAM_BOT_TOKEN", "TELEGRAM_CHAT_ID", "DB_URL"].Nodup
  decide

theorem plainKey_updates (r : SettingsSaveRequest) : ∀ u ∈ r.updates, PlainKey u.1 := by
  have hkeys : ∀ key ∈ r.updates.map Prod.fst, PlainKey key := by
    change ∀ key ∈ ["BYBIT_API_KEY", "BYBIT_API_SECRET", "BYBIT_MAINNET_API_KEY",
      "BYBIT_MAINNET_API_SECRET", "TELEGRAM_BOT_TOKEN", "TELEGRAM_CHAT_ID", "DB_URL"], PlainKey key
    simp only [List.forall_mem_cons]
    refine ⟨?_, ?_, ?_, ?_, ?_, ?_, ?_, by simp⟩ <;>
      exact ⟨by decide, by decide, by decide, by decide⟩
  exact fun u hu => hkeys u.1 (List.mem_map_of_mem hu)

/-- An update writes its own key. -/
theorem get?_applyUpdate (d : Dict String String) (u : String × Option String) (key : String) :
    (applyUpdate d u).get? key = if key = u.1 then u.2.or (d.get? key) else d.get? key := by
  unfold applyUpdate
  cases u.2 with
  | none => simp
  | some value =>
    rw [Dict.get?_set]
    rfl

theorem get?_applyUpdates {us : List (String × Option String)} (h : (us.map Prod.fst).Nodup)
    (d : Dict String String) (key : String) :
    (us.foldl applyUpdate d).get? key =
      ((us.find? fun u => u.1 = key).bind Prod.snd).or (d.get? key) := by
  induction us generalizing d with
  | nil => rfl
  | cons u us ih =>
    obtain ⟨hnot, hrest⟩ := List.nodup_cons.mp h
    rw [List.foldl_cons, ih hrest, get?_applyUpdate]
    by_cases hkey : key = u.1
    · have hnone : (us.find? fun u => u.1 = key) = none := by
        refine List.find?_eq_none.mpr fun u' hu' heq => hnot ?_
        rw [← hkey, ← of_decide_eq_true heq]
        exact List.mem_map_of_mem hu'
      rw [hnone, List.find?_cons_of_pos (by simp [hkey]), if_pos hkey]
      rfl
    · rw [List.find?_cons_of_neg (by simp [Ne.symm hkey]), if_neg hkey]

theorem plain_applyUpdates {us : List (String × Option String)} (hkeys : ∀ u ∈ us, PlainKey u.1)
    (hvalues : ∀ u ∈ us, ∀ value ∈ u.2, OneLine value) {d : Dict String String} (hd : Plain d) :
    Plain (us.foldl applyUpdate d) := by
  induction us generalizing d with
  | nil => exact hd
  | cons u us ih =>
    obtain ⟨hkey, hkeys⟩ := List.forall_mem_cons.mp hkeys
    obtain ⟨hvalue, hvalues⟩ := List.forall_mem_cons.mp hvalues
    refine ih hkeys hvalues ?_
    unfold applyUpdate
    cases hu : u.2 with
    | none => exact hd
    | some value => exact hd.set hkey (hvalue value hu)

/-- After a save every setting is the one of the request, or the one before, as it comes back. -/
theorem get?_saved (hr : RequestOneLine r) (file : Option (List Char)) (key : String) :
    (current (saved r file)).get? key =
      ((update? r key).or ((current file).get? key)).map reload := by
  have hplain : Plain (r.updates.foldl applyUpdate (current file)) :=
    plain_applyUpdates (plainKey_updates r) hr (plain_current file)
  change (readEnvFile (writeEnvFile _)).get? key = _
  rw [readEnvFile_writeEnvFile hplain, Dict.get?_mapValues, get?_applyUpdates (nodup_updates r)]
  rfl

/-- What is lost when a value is written and read does not come back. -/
theorem iterate_reload_eq_self_iff (n : ℕ) : reload^[n + 1] value = value ↔ Stable value := by
  have hsublist : ∀ (n : ℕ) (value : String), (reload^[n] value).toList.Sublist value.toList := by
    intro n
    induction n with
    | zero => exact fun value => List.Sublist.refl _
    | succ n ih => exact fun value => (ih (reload value)).trans (reload_sublist value)
  rw [← reload_eq_self_iff]
  constructor
  · intro h
    have hkept : value.toList.Sublist (reload value).toList := by
      conv_lhs => rw [← h]
      exact hsublist n (reload value)
    exact String.toList_inj.mp ((reload_sublist value).antisymm hkept)
  · exact fun h => Function.iterate_fixed h (n + 1)

/-- A setting that the later saves leave out. -/
theorem get?_run_saved {requests : List SettingsSaveRequest}
    (hone : ∀ r ∈ requests, RequestOneLine r) (hleft : ∀ r ∈ requests, update? r key = none)
    (file : Option (List Char)) :
    (current (Runs.run saved requests file)).get? key =
      ((current file).get? key).map reload^[requests.length] := by
  induction requests generalizing file with
  | nil => simp
  | cons r requests ih =>
    obtain ⟨hr, hone⟩ := List.forall_mem_cons.mp hone
    obtain ⟨hnone, hleft⟩ := List.forall_mem_cons.mp hleft
    rw [Runs.run_cons, ih hone hleft, get?_saved hr, hnone, Option.none_or, Option.map_map]
    rfl

end Saves

/-- What is shown of a secret has the stars by which the page knows it. -/
theorem contains_mask (value : String) : Text.contains "***" (mask value) = true := by
  have hcontains : ∀ before after : List Char,
      Text.contains "***" (String.ofList (before ++ "***".toList ++ after)) = true := by
    intro before after
    unfold Text.contains
    rw [String.toList_ofList, List.append_assoc, List.any_eq_true]
    exact ⟨"***".toList ++ after, (List.mem_tails _ _).mpr (List.suffix_append _ _),
      List.isPrefixOf_iff_prefix.mpr (List.prefix_append _ _)⟩
  unfold mask
  dsimp only
  split_ifs with hshort
  · decide
  · have hparts := hcontains (value.toList.take 4) (value.toList.drop (value.toList.length - 4))
    rw [String.ofList_append, String.ofList_append, String.ofList_toList] at hparts
    exact hparts

/-- Every secret is shown by its mask, or is not there. -/
theorem masked_snapshot (env : String → Option String) (file : Option (List Char)) :
    ∀ field ∈ snapshot env file, field.masked = true →
      field.value = "" ∨ Text.contains "***" field.value = true := by
  intro field hfield hmasked
  obtain ⟨⟨key, label, masked⟩, -, rfl⟩ := List.mem_map.mp hfield
  obtain rfl : masked = true := hmasked
  by_cases hraw : rawValue env file key = ""
  · exact Or.inl (by simp [hraw])
  · exact Or.inr (by simp [hraw, contains_mask])

end Settings

open Settings

/-- The settings of any file are written and read again as they were if and only if every value is
stable. -/
theorem settings_round_trip (text : List Char) :
    readEnvFile (writeEnvFile (readEnvFile text)) = readEnvFile text ↔
      ∀ key value, (readEnvFile text).get? key = some value → Stable value := by
  rw [readEnvFile_writeEnvFile (plain_readEnvFile text)]
  constructor
  · intro h key value hget
    have hreload : (readEnvFile text).get? key = some (reload value) := by
      conv_lhs => rw [← h]
      rw [Dict.get?_mapValues, hget]
      rfl
    exact reload_eq_self_iff.mp (Option.some.inj (hreload.symm.trans hget))
  · intro h
    refine Dict.ext_entries ?_
    have hentries : ∀ e ∈ (readEnvFile text).entries, (e.1, reload e.2) = e := by
      intro e he
      exact Prod.ext rfl (reload_eq_self_iff.mpr (h e.1 e.2 (Dict.mem_entries_iff.mp he)))
    exact (List.map_congr_left hentries).trans (List.map_id _)

/-- Over every run of saves, from any file: a setting has the value that was saved for it last,
however many saves of other settings come after, if and only if that value is stable. -/
theorem setting_kept_iff_stable (before after : List SettingsSaveRequest) (r : SettingsSaveRequest)
    (file : Option (List Char)) (key value : String) (hset : update? r key = some value)
    (hlater : ∀ r' ∈ after, update? r' key = none)
    (hone : ∀ r' ∈ r :: after, RequestOneLine r') :
    (current (Runs.run saved (before ++ r :: after) file)).get? key = some value ↔
      Stable value := by
  obtain ⟨hr, hone⟩ := List.forall_mem_cons.mp hone
  rw [Runs.run_append, Runs.run_cons, get?_run_saved hone hlater, get?_saved hr, hset,
    Option.some_or, Option.map_some, Option.map_some, Option.some_inj]
  exact iterate_reload_eq_self_iff after.length

/-- A secret between single quotes, and then a chat. -/
theorem quoted_secret_lost :
    (current (Runs.run saved
      [⟨none, some "'s3cret'", none, none, none, none, none⟩,
        ⟨none, none, none, none, none, some "42", none⟩] none)).get? "BYBIT_API_SECRET" ≠
      some "'s3cret'" := by
  intro hkept
  have hstable := (setting_kept_iff_stable [] [⟨none, none, none, none, none, some "42", none⟩]
    ⟨none, some "'s3cret'", none, none, none, none, none⟩ none "BYBIT_API_SECRET" "'s3cret'"
    (by decide) (by decide) (by decide)).mp hkept
  exact (hstable.first '\'' rfl).2 rfl

end Botik.AppService
