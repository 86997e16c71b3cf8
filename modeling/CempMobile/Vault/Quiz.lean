import CempMobile.Lib.Shuffle
import CempMobile.Vault.Finality
import Mathlib

/-! The quiz on the recovery phrase: which positions it asks for, and which answers it accepts. -/

open cemp.core Shuffle

namespace cemp.secureVault

/-- Positions a quiz may ask for. -/
structure IsQuiz (wordCount : Nat) (words : List String) (positions : List Nat) : Prop where
  ascending : positions.Pairwise (· < ·)
  inPhrase : ∀ position ∈ positions, 1 ≤ position ∧ position ≤ words.length
  count : positions.length = min (max 1 wordCount) words.length

section Words

variable {crypto : Crypto} {w w' : World} {words : List String}

theorem assertUnlocked_runs_iff {m : Memory} :
    Program.Runs storageEffect assertUnlocked w (.ok m) w' ↔
      w.memory.state = .unlocked ∧ m = w.memory ∧ w' = w := by
  constructor
  · intro h
    obtain ⟨before, w₁, hbefore, hstate⟩ := Program.runs_bind_ok.1 h
    obtain ⟨hbefore, rfl⟩ := Program.runs_perform.1 hbefore
    obtain rfl := Except.ok.inj hbefore
    cases hcase : w₁.memory.state with
    | uninitialized =>
      rw [hcase] at hstate
      cases hstate.1
    | locked =>
      rw [hcase] at hstate
      cases hstate.1
    | unlocked =>
      rw [hcase] at hstate
      exact ⟨rfl, Except.ok.inj hstate.1, hstate.2⟩
  · rintro ⟨hstate, rfl, rfl⟩
    refine Program.runs_bind_ok.2 ⟨w'.memory, w', Program.runs_perform.2 ⟨rfl, rfl⟩, ?_⟩
    rw [hstate]
    exact ⟨rfl, rfl⟩

/-- Where the phrase comes from: the stored file, under the key that the vault holds. -/
theorem mnemonicWords_runs
    (h : Program.Runs storageEffect (mnemonicWordsWhileUnlocked crypto) w (.ok words) w') :
    w' = w ∧ w.memory.state = .unlocked ∧ ∃ stored file payload mnemonic,
      w.storage .vaultFile = some stored ∧ parseStored crypto.otherNumberText stored = .ok file ∧
      decryptPayload crypto file w.memory.vek .corrupt_vault = .ok payload ∧
      crypto.entropyToMnemonic payload.entropy = .ok mnemonic ∧ words = mnemonic.splitOn " " := by
  obtain ⟨file, w₁, hfile, h⟩ := Program.runs_bind_ok.1 h
  obtain ⟨vek, w₂, hvek, h⟩ := Program.runs_bind_ok.1 h
  obtain ⟨payload, w₃, hpayload, h⟩ := Program.runs_bind_ok.1 h
  obtain ⟨mnemonic, w₄, hmnemonic, hout, rfl⟩ := Program.runs_bind_ok.1 h
  obtain ⟨hopened, rfl⟩ := Program.runs_ofExcept.1 hpayload
  obtain ⟨hphrase, rfl⟩ := Program.runs_ofExcept.1 hmnemonic
  obtain ⟨stored, w₅, hread, hparse⟩ := Program.runs_bind_ok.1 hfile
  obtain ⟨hstored, rfl⟩ := Program.runs_perform.1 hread
  obtain ⟨memory, w₆, hunlocked, hmemory, rfl⟩ := Program.runs_bind_ok.1 hvek
  obtain ⟨hstate, rfl, rfl⟩ := assertUnlocked_runs_iff.1 hunlocked
  obtain rfl := Except.ok.inj hmemory
  have hfound : w₅.storage .vaultFile = stored := by
    obtain hok | ⟨e, he⟩ := hstored
    · exact (Except.ok.inj hok).symm
    · cases he
  cases stored with
  | none => cases hparse.1
  | some stored =>
    obtain ⟨hparsed, rfl⟩ := Program.runs_ofExcept.1 hparse
    exact ⟨rfl, hstate, stored, file, payload, mnemonic, hfound, hparsed.symm, hopened.symm,
      hphrase.symm, Except.ok.inj hout⟩

theorem mnemonicWords_unique {words' : List String}
    (h : Program.Runs storageEffect (mnemonicWordsWhileUnlocked crypto) w (.ok words) w)
    (h' : Program.Runs storageEffect (mnemonicWordsWhileUnlocked crypto) w (.ok words') w') :
    w' = w ∧ words' = words := by
  obtain ⟨-, -, stored, file, payload, mnemonic, hstored, hparse, hpayload, hmnemonic, rfl⟩ :=
    mnemonicWords_runs h
  obtain ⟨hw, -, stored', file', payload', mnemonic', hstored', hparse', hpayload', hmnemonic', rfl⟩ :=
    mnemonicWords_runs h'
  obtain rfl := Option.some.inj (hstored.symm.trans hstored')
  obtain rfl := Except.ok.inj (hparse.symm.trans hparse')
  obtain rfl := Except.ok.inj (hpayload.symm.trans hpayload')
  obtain rfl := Except.ok.inj (hmnemonic.symm.trans hmnemonic')
  exact ⟨hw, rfl⟩

end Words

/-! ### The positions -/

section Positions

variable {w w' : World} {pool pool' : List Nat} {count i : Nat}

theorem swap_eq_exchange {j : Nat} (hi : i < pool.length) (hj : j < pool.length) :
    swap pool i j = exchange pool i j := by
  rw [exchange_of_lt hi hj, swap, List.getD_eq_getElem?_getD, List.getD_eq_getElem?_getD,
    List.getElem?_eq_getElem hi, List.getElem?_eq_getElem hj, Option.getD_some, Option.getD_some]

/-- The shuffles that some random bytes lead to. -/
theorem shuffle_runs_iff (hroom : i + count ≤ pool.length) :
    Program.Runs storageEffect (shuffle count i pool) w (.ok pool') w' ↔
      w' = w ∧ ∃ draws : List Nat, draws.length = count ∧ (∀ draw ∈ draws, draw < 256) ∧
        pool' = partialShuffle draws i pool := by
  induction count generalizing i pool with
  | zero =>
    constructor
    · rintro ⟨hout, rfl⟩
      exact ⟨rfl, [], rfl, nofun, Except.ok.inj hout⟩
    · rintro ⟨rfl, draws, hlength, -, rfl⟩
      obtain rfl := List.eq_nil_of_length_eq_zero hlength
      exact ⟨rfl, rfl⟩
  | succ count ih =>
    have hin : ∀ draw, i + draw % (pool.length - i) < pool.length := fun draw => by
      have hmod := Nat.mod_lt draw (by omega : 0 < pool.length - i)
      omega
    have hswap : ∀ draw, swap pool i (i + draw % (pool.length - i)) =
        exchange pool i (i + draw % (pool.length - i)) := fun draw =>
      swap_eq_exchange (by omega) (hin draw)
    have hroom' : ∀ draw, i + 1 + count ≤ (exchange pool i (i + draw % (pool.length - i))).length :=
      fun draw => by
        rw [(exchange_perm ..).length_eq]
        omega
    constructor
    · intro h
      obtain ⟨bytes, w₁, hbytes, hrest⟩ := Program.runs_bind_ok.1 h
      obtain rfl : w₁ = w := Program.runs_perform.1 hbytes
      dsimp only at hrest
      rw [hswap] at hrest
      obtain ⟨rfl, draws, rfl, hbound, rfl⟩ := (ih (hroom' _)).1 hrest
      refine ⟨rfl, (bytes.headD 0).toNat :: draws, rfl, fun draw hdraw => ?_, rfl⟩
      obtain rfl | hdraw := List.mem_cons.1 hdraw
      · exact UInt8.toNat_lt _
      · exact hbound draw hdraw
    · rintro ⟨rfl, draws, hlength, hbound, rfl⟩
      obtain ⟨draw, draws, rfl⟩ := List.exists_cons_of_length_eq_add_one hlength
      have hbyte : (UInt8.ofNat draw).toNat = draw := by
        rw [UInt8.toNat_ofNat', Nat.mod_eq_of_lt (hbound draw List.mem_cons_self)]
      have hanswer : Program.Runs storageEffect (randomBytes 1) w' (.ok [UInt8.ofNat draw]) w' :=
        Program.runs_perform.2 rfl
      refine Program.runs_bind_ok.2 ⟨[UInt8.ofNat draw], w', hanswer, ?_⟩
      rw [List.headD_cons, hbyte]
      dsimp only
      rw [hswap]
      exact (ih (hroom' draw)).2 ⟨rfl, draws, Nat.succ.inj hlength,
        fun other hother => hbound other (List.mem_cons_of_mem _ hother), rfl⟩

/-- The places of a shuffled pool, as positions in ascending order. -/
theorem isQuiz_of_shuffled {wordCount : Nat} {words : List String}
    (hperm : pool.Perm (List.range words.length)) :
    IsQuiz wordCount words
      ((pool.take (min (max 1 wordCount) words.length)).map (· + 1)).mergeSort := by
  have hsorted := List.mergeSort_perm
    ((pool.take (min (max 1 wordCount) words.length)).map (· + 1)) (fun a b => decide (a ≤ b))
  have hnodup : ((pool.take (min (max 1 wordCount) words.length)).map (· + 1)).Nodup :=
    ((hperm.nodup_iff.2 List.nodup_range).sublist (List.take_sublist ..)).map
      fun _ _ heq => Nat.succ.inj heq
  refine ⟨?_, fun position hposition => ?_, ?_⟩
  · have hle := @List.pairwise_mergeSort Nat (fun a b => decide (a ≤ b))
      (fun a b c hab hbc => decide_eq_true ((of_decide_eq_true hab).trans (of_decide_eq_true hbc)))
      (fun a b => by simpa using Nat.le_total a b)
      ((pool.take (min (max 1 wordCount) words.length)).map (· + 1))
    refine (hle.and (hsorted.nodup_iff.2 hnodup)).imp fun {a b} hboth => ?_
    exact Nat.lt_of_le_of_ne (of_decide_eq_true hboth.1) hboth.2
  · obtain ⟨place, hplace, rfl⟩ := List.mem_map.1 (hsorted.mem_iff.1 hposition)
    have hlt := List.mem_range.1 (hperm.mem_iff.1 (List.mem_of_mem_take hplace))
    omega
  · rw [hsorted.length_eq, List.length_map, List.length_take, hperm.length_eq, List.length_range]
    omega

/-- Every quiz is the sorted result of some draws. -/
theorem IsQuiz.drawn {wordCount : Nat} {words : List String} {positions : List Nat}
    (h : IsQuiz wordCount words positions) (hfew : words.length ≤ 256) :
    ∃ draws : List Nat, draws.length = min (max 1 wordCount) words.length ∧
      (∀ draw ∈ draws, draw < 256) ∧
      (((partialShuffle draws 0 (List.range words.length)).take
        (min (max 1 wordCount) words.length)).map (· + 1)).mergeSort = positions := by
  have hback : (positions.map (· - 1)).map (· + 1) = positions := by
    rw [List.map_map]
    refine (List.map_congr_left fun position hposition => ?_).trans (List.map_id _)
    exact Nat.sub_add_cancel (h.inPhrase position hposition).1
  have hnodup : (positions.map (· - 1)).Nodup := by
    refine List.Nodup.of_map (· + 1) ?_
    rw [hback]
    exact h.ascending.imp Nat.ne_of_lt
  have hplaces : ∀ place ∈ positions.map (· - 1), place ∈ (List.range words.length).drop 0 := by
    intro place hplace
    obtain ⟨position, hposition, rfl⟩ := List.mem_map.1 hplace
    have hin := h.inPhrase position hposition
    exact List.mem_range.2 (by omega)
  obtain ⟨draws, hlength, hbound, hdrawn⟩ :=
    partialShuffle_reaches List.nodup_range hnodup hplaces
  rw [List.length_map, h.count, List.take_zero, List.nil_append, Nat.zero_add] at hdrawn
  rw [List.length_map, h.count] at hlength
  rw [List.length_range] at hbound
  refine ⟨draws, hlength, fun draw hdraw => (hbound draw hdraw).trans_le hfew, ?_⟩
  rw [hdrawn, hback]
  exact List.mergeSort_of_pairwise (h.ascending.imp fun hlt => decide_eq_true (Nat.le_of_lt hlt))

end Positions

/-! ### Questions and answers -/

section Answers

variable {crypto : Crypto} {w w' : World} {words : List String}

theorem generateMnemonicQuiz_runs_iff {wordCount : Nat} {positions : List Nat}
    (hwords : Program.Runs storageEffect (mnemonicWordsWhileUnlocked crypto) w (.ok words) w)
    (hfew : words.length ≤ 256) :
    Program.Runs storageEffect (generateMnemonicQuiz crypto wordCount) w (.ok positions) w' ↔
      IsQuiz wordCount words positions ∧ w' = w := by
  have hroom : 0 + min (max 1 wordCount) words.length ≤ (List.range words.length).length := by
    rw [List.length_range]
    omega
  constructor
  · intro h
    obtain ⟨memory, w₁, hunlocked, hread⟩ := Program.runs_bind_ok.1 h
    obtain ⟨-, -, rfl⟩ := assertUnlocked_runs_iff.1 hunlocked
    obtain ⟨found, w₂, hfound, hdraw⟩ := Program.runs_bind_ok.1 hread
    obtain ⟨rfl, rfl⟩ := mnemonicWords_unique hwords hfound
    obtain ⟨pool, w₃, hpool, hout, rfl⟩ := Program.runs_bind_ok.1 hdraw
    obtain ⟨rfl, draws, -, -, rfl⟩ := (shuffle_runs_iff hroom).1 hpool
    obtain rfl := Except.ok.inj hout
    exact ⟨isQuiz_of_shuffled (partialShuffle_perm _ _ _), rfl⟩
  · rintro ⟨hquiz, rfl⟩
    obtain ⟨draws, hlength, hbound, hpositions⟩ := hquiz.drawn hfew
    have hunlocked := (mnemonicWords_runs hwords).2.1
    refine Program.runs_bind_ok.2 ⟨_, w', assertUnlocked_runs_iff.2 ⟨hunlocked, rfl, rfl⟩, ?_⟩
    refine Program.runs_bind_ok.2 ⟨words, w', hwords, ?_⟩
    refine Program.runs_bind_ok.2 ⟨_, w', (shuffle_runs_iff hroom).2 ⟨rfl, draws, hlength, hbound,
      rfl⟩, ?_⟩
    exact ⟨congrArg Except.ok hpositions.symm, rfl⟩

/-- The answer to the question about a position of the phrase. -/
def Answers (crypto : Crypto) (words : List String) (position : Nat) (answer : String) : Prop :=
  1 ≤ position ∧ words[position - 1]? = some (crypto.normalizeAnswer answer)

theorem all_zip_iff_forall₂ {positions : List Nat} {answers : List String}
    (hlength : answers.length = positions.length) :
    ((positions.zip answers).all fun (position, answer) =>
      decide (1 ≤ position) && decide (position ≤ words.length) &&
        words[position - 1]? == some (crypto.normalizeAnswer answer)) = true ↔
      List.Forall₂ (Answers crypto words) positions answers := by
  induction positions generalizing answers with
  | nil =>
    obtain rfl := List.eq_nil_of_length_eq_zero hlength
    simp
  | cons position positions ih =>
    obtain ⟨answer, answers, rfl⟩ := List.exists_cons_of_length_eq_add_one hlength
    rw [List.zip_cons_cons, List.all_cons, Bool.and_eq_true, ih (Nat.succ.inj hlength),
      List.forall₂_cons]
    refine and_congr_left fun _ => ?_
    rw [Bool.and_eq_true, Bool.and_eq_true, decide_eq_true_iff, decide_eq_true_iff, beq_iff_eq]
    constructor
    · rintro ⟨⟨hpositive, -⟩, hword⟩
      exact ⟨hpositive, hword⟩
    · rintro ⟨hpositive, hword⟩
      have hlt := (List.getElem?_eq_some_iff.1 hword).1
      exact ⟨⟨hpositive, by omega⟩, hword⟩

theorem verifyMnemonicQuiz_runs_iff {positions : List Nat} {answers : List String} {accepted : Bool}
    (hwords : Program.Runs storageEffect (mnemonicWordsWhileUnlocked crypto) w (.ok words) w) :
    Program.Runs storageEffect (verifyMnemonicQuiz crypto positions answers) w (.ok accepted) w' ↔
      (accepted = true ↔ List.Forall₂ (Answers crypto words) positions answers) ∧ w' = w := by
  have hunlocked := (mnemonicWords_runs hwords).2.1
  by_cases hlength : answers.length = positions.length
  · rw [← all_zip_iff_forall₂ hlength, Bool.coe_iff_coe]
    constructor
    · intro h
      obtain ⟨memory, w₁, hopen, hrest⟩ := Program.runs_bind_ok.1 h
      obtain ⟨-, -, rfl⟩ := assertUnlocked_runs_iff.1 hopen
      rw [if_neg (not_not_intro hlength)] at hrest
      obtain ⟨found, w₂, hfound, hout, rfl⟩ := Program.runs_bind_ok.1 hrest
      obtain ⟨rfl, rfl⟩ := mnemonicWords_unique hwords hfound
      exact ⟨Except.ok.inj hout, rfl⟩
    · rintro ⟨rfl, rfl⟩
      refine Program.runs_bind_ok.2 ⟨_, w', assertUnlocked_runs_iff.2 ⟨hunlocked, rfl, rfl⟩, ?_⟩
      rw [if_neg (not_not_intro hlength)]
      exact Program.runs_bind_ok.2 ⟨words, w', hwords, rfl, rfl⟩
  · have hnot : ¬List.Forall₂ (Answers crypto words) positions answers := fun hall =>
      hlength hall.length_eq.symm
    rw [iff_false_right hnot, Bool.not_eq_true]
    constructor
    · intro h
      obtain ⟨memory, w₁, hopen, hrest⟩ := Program.runs_bind_ok.1 h
      obtain ⟨-, -, rfl⟩ := assertUnlocked_runs_iff.1 hopen
      rw [if_pos hlength] at hrest
      exact ⟨Except.ok.inj hrest.1, hrest.2⟩
    · rintro ⟨rfl, rfl⟩
      refine Program.runs_bind_ok.2 ⟨_, w', assertUnlocked_runs_iff.2 ⟨hunlocked, rfl, rfl⟩, ?_⟩
      rw [if_pos hlength]
      exact ⟨rfl, rfl⟩

end Answers

/-- The random bytes can lead to each quiz over the phrase, and to nothing else; and a quiz is
    passed by the words that stand at its positions, and by no other answers. -/
theorem quiz_exact {crypto : Crypto} {w : World} {words : List String}
    (hwords : Program.Runs storageEffect (mnemonicWordsWhileUnlocked crypto) w (.ok words) w)
    (hfew : words.length ≤ 256) (wordCount : Nat) (positions : List Nat) (answers : List String)
    (accepted : Bool) (w' : World) :
    (Program.Runs storageEffect (generateMnemonicQuiz crypto wordCount) w (.ok positions) w' ↔
      IsQuiz wordCount words positions ∧ w' = w) ∧
    (Program.Runs storageEffect (verifyMnemonicQuiz crypto positions answers) w (.ok accepted) w' ↔
      (accepted = true ↔ List.Forall₂ (Answers crypto words) positions answers) ∧ w' = w) :=
  ⟨generateMnemonicQuiz_runs_iff hwords hfew, verifyMnemonicQuiz_runs_iff hwords⟩

/-- A rig whose phrase has three words. -/
def quizCrypto : Crypto :=
  { rigCrypto with entropyToMnemonic _ := .ok "a b c" }

theorem splitOn_phrase : "a b c".splitOn " " = ["a", "b", "c"] := by
  cbv

theorem openWorld_words :
    Program.Runs storageEffect (mnemonicWordsWhileUnlocked quizCrypto) openWorld
      (.ok ["a", "b", "c"]) openWorld := by
  have hrun := Program.runs_of_run Rig.handle Rig.world Rig.handle_storage
    (mnemonicWordsWhileUnlocked quizCrypto) { world := openWorld }
  have hok : (Program.run Rig.handle (mnemonicWordsWhileUnlocked quizCrypto)
      { world := openWorld }).1.isOk = true := by
    decide +kernel
  generalize Program.run Rig.handle (mnemonicWordsWhileUnlocked quizCrypto)
    { world := openWorld } = result at hrun hok
  obtain ⟨out, rig⟩ := result
  cases out with
  | error e => cases hok
  | ok words =>
    obtain ⟨hsame, -, stored, file, payload, mnemonic, -, -, -, hphrase, rfl⟩ :=
      mnemonicWords_runs hrun
    obtain rfl := Except.ok.inj hphrase
    rw [splitOn_phrase, hsame] at hrun
    exact hrun

theorem quiz_exact_openWorld :
    Program.Runs storageEffect (generateMnemonicQuiz quizCrypto 2) openWorld (.ok [1, 3]) openWorld ∧
    Program.Runs storageEffect (verifyMnemonicQuiz quizCrypto [1, 3] ["a", "c"]) openWorld
      (.ok true) openWorld := by
  have hexact := quiz_exact openWorld_words (by decide) 2 [1, 3] ["a", "c"] true openWorld
  refine ⟨hexact.1.2 ⟨⟨by decide, by decide, by decide⟩, rfl⟩, hexact.2.2 ⟨?_, rfl⟩⟩
  refine iff_of_true rfl ?_
  exact .cons ⟨by decide, rfl⟩ (.cons ⟨by decide, rfl⟩ .nil)

end cemp.secureVault
