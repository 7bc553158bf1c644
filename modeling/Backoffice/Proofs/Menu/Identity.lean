import Backoffice.Menu
import Mathlib.Data.List.Basic

/-!
What the key of a menu item is made of.

The digest is taken of one text, in which the parts that identify an item are set apart by marks.
Main statement: the bytes tell this text, and where the marks stand only between the parts, the text
tells the parts (`keyBytes_separate`). But no part is kept from having a mark in it, and so two
items that point to different places can have one key (`keyBytes_shared`).
-/

namespace Backoffice

namespace Digest

theorem toList_loop (bytes : ByteArray) (i : Nat) (read : List UInt8) :
    ByteArray.toList.loop bytes i read = read.reverse ++ bytes.data.toList.drop i := by
  fun_induction ByteArray.toList.loop bytes i read with
  | case1 i read hi ih =>
    have hbyte : bytes.get! i = bytes.data.toList[i] := getElem!_pos bytes.data i hi
    rw [ih, List.drop_eq_getElem_cons hi, hbyte, List.reverse_cons, List.append_assoc]
    rfl
  | case2 i read hi =>
    have hend : bytes.data.toList.length ≤ i := Nat.le_of_not_lt hi
    rw [List.drop_eq_nil_of_le hend, List.append_nil]

theorem utf8_eq (s : String) : utf8 s = s.toByteArray.data.toList := toList_loop s.toUTF8 0 []

theorem utf8_append (s t : String) : utf8 (s ++ t) = utf8 s ++ utf8 t := by
  simp [utf8_eq]

theorem utf8_injective : Function.Injective utf8 := by
  intro s t h
  rw [utf8_eq, utf8_eq] at h
  exact String.toByteArray_inj.1 (ByteArray.ext (Array.toList_inj.1 h))

end Digest

namespace Menu

structure Identity where
  code : String
  label : String
  kind : String
  path : String
  key : String
  parent : String
  deriving DecidableEq

def Item.identity (i : Item) : Identity where
  code := Text.key i.menuCode
  label := Text.key i.label
  kind := Text.key i.target.kind
  path := i.target.plainPath
  key := Text.key i.target.key
  parent := Text.trim (i.parentId.getD "")

def Item.keyBytes (i : Item) : List UInt8 := Menu.keyBytes i.menuCode i.label i.target i.parentId

namespace Identity

def target (p : Identity) : String := p.kind ++ ":" ++ p.path ++ ":" ++ p.key

def text (p : Identity) : String :=
  p.code ++ "\x1f" ++ p.label ++ "\x1f" ++ p.target ++ "\x1f" ++ p.parent ++ "\x1f"

/-- The parts can be told from the text: the first three marks in it are those behind code, label
and target, and in the target the first and the last colon are those around the path. -/
structure Separable (p : Identity) : Prop where
  code : '\x1f' ∉ p.code.toList
  label : '\x1f' ∉ p.label.toList
  target : '\x1f' ∉ p.target.toList
  kind : ':' ∉ p.kind.toList
  key : ':' ∉ p.key.toList

variable {p q : Identity}

theorem toList_target (p : Identity) :
    p.target.toList = p.kind.toList ++ ':' :: (p.path.toList ++ ':' :: p.key.toList) := by
  simp [target, String.toList_append]

theorem toList_text (p : Identity) : p.text.toList =
    p.code.toList ++ '\x1f' :: (p.label.toList ++ '\x1f' :: (p.target.toList ++ '\x1f' ::
      (p.parent.toList ++ ['\x1f']))) := by
  simp [text, String.toList_append]

end Identity

theorem Item.keyBytes_eq (i : Item) : i.keyBytes = Digest.utf8 i.identity.text := by
  have hmark : [0x1F] = Digest.utf8 "\x1f" := by decide +kernel
  simp only [Item.keyBytes, Menu.keyBytes, List.flatMap_cons, List.flatMap_nil, hmark,
    ← Digest.utf8_append, List.append_nil, Target.normalized, Identity.text,
    Identity.target, Item.identity,
    String.append_assoc]

theorem eq_of_append_mark {α : Type} {m : α} {xs xs' ys ys' : List α} (hxs : m ∉ xs) (hxs' : m ∉ xs')
    (h : xs ++ m :: ys = xs' ++ m :: ys') : xs = xs' ∧ ys = ys' := by
  rcases List.append_eq_append_iff.1 h with ⟨z, rfl, hz⟩ | ⟨z, rfl, hz⟩
  · cases z with
    | nil => exact ⟨by simp, (List.cons.inj hz).2⟩
    | cons c z =>
      cases (List.cons.inj hz).1
      simp at hxs'
  · cases z with
    | nil => exact ⟨by simp, (List.cons.inj hz).2.symm⟩
    | cons c z =>
      cases (List.cons.inj hz).1
      simp at hxs

theorem eq_of_append_last_mark {α : Type} {m : α} {xs xs' ys ys' : List α} (hys : m ∉ ys)
    (hys' : m ∉ ys') (h : xs ++ m :: ys = xs' ++ m :: ys') : xs = xs' ∧ ys = ys' := by
  have hreverse := congrArg List.reverse h
  simp only [List.reverse_append, List.reverse_cons, List.append_assoc, List.singleton_append]
    at hreverse
  obtain ⟨hlast, hfirst⟩ := eq_of_append_mark (by simpa using hys) (by simpa using hys') hreverse
  exact ⟨List.reverse_injective hfirst, List.reverse_injective hlast⟩

theorem Identity.Separable.eq_of_text {p q : Identity} (hp : p.Separable) (hq : q.Separable)
    (h : p.text = q.text) : p = q := by
  have hchars := congrArg String.toList h
  rw [toList_text, toList_text] at hchars
  obtain ⟨hcode, hchars⟩ := eq_of_append_mark hp.code hq.code hchars
  obtain ⟨hlabel, hchars⟩ := eq_of_append_mark hp.label hq.label hchars
  obtain ⟨htarget, hparent⟩ := eq_of_append_mark hp.target hq.target hchars
  rw [toList_target, toList_target] at htarget
  obtain ⟨hkind, hplace⟩ := eq_of_append_mark hp.kind hq.kind htarget
  obtain ⟨hpath, hkey⟩ := eq_of_append_last_mark hp.key hq.key hplace
  have hparent := List.append_cancel_right hparent
  obtain ⟨code, label, kind, path, key, parent⟩ := p
  obtain ⟨code', label', kind', path', key', parent'⟩ := q
  rw [Identity.mk.injEq]
  exact ⟨String.toList_inj.1 hcode, String.toList_inj.1 hlabel, String.toList_inj.1 hkind,
    String.toList_inj.1 hpath, String.toList_inj.1 hkey, String.toList_inj.1 hparent⟩

/-- The bytes tell the text; and where the parts can be told from it, they tell the parts. -/
theorem keyBytes_separate (i j : Item) :
    (i.keyBytes = j.keyBytes ↔ i.identity.text = j.identity.text) ∧
      (i.identity.Separable → j.identity.Separable →
        (i.keyBytes = j.keyBytes ↔ i.identity = j.identity)) := by
  have htext : i.keyBytes = j.keyBytes ↔ i.identity.text = j.identity.text := by
    rw [Item.keyBytes_eq, Item.keyBytes_eq]
    exact Digest.utf8_injective.eq_iff
  refine ⟨htext, fun hi hj => ?_⟩
  rw [htext]
  exact ⟨hi.eq_of_text hj, congrArg Identity.text⟩

def hostLink (path key : String) : Item := .new "admin" "Host" ⟨"url", path, key, none⟩

theorem keyBytes_separate_hosts :
    (hostLink "https://x:80" "y").identity.Separable ∧
      (hostLink "https://x:8080" "y").identity.Separable ∧
      (hostLink "https://x:80" "y").keyBytes ≠ (hostLink "https://x:8080" "y").keyBytes := by
  have hfirst : (hostLink "https://x:80" "y").identity.Separable := by
    constructor <;> decide
  have hsecond : (hostLink "https://x:8080" "y").identity.Separable := by
    constructor <;> decide
  refine ⟨hfirst, hsecond, fun h => ?_⟩
  have hsame := ((keyBytes_separate _ _).2 hfirst hsecond).1 h
  exact absurd hsame (by decide)

/-- A colon can end the path or stand in the key behind it, and a mark can end the menu code or stand
in the label. -/
theorem keyBytes_shared :
    (hostLink "https://x" "8080:y").identity ≠ (hostLink "https://x:8080" "y").identity ∧
      (hostLink "https://x" "8080:y").keyBytes = (hostLink "https://x:8080" "y").keyBytes ∧
      (Item.new "a\x1fb" "c" (.url "/")).identity ≠ (Item.new "a" "b\x1fc" (.url "/")).identity ∧
      (Item.new "a\x1fb" "c" (.url "/")).keyBytes = (Item.new "a" "b\x1fc" (.url "/")).keyBytes := by
  decide +kernel

end Menu

end Backoffice
