import HttpTest.Http.Domain.Label
import HttpTest.Text.Basic

/-!
# Domain names

A domain name is read from any text that is written for it: its characters are mapped, the text is
normalized, and each label is taken for the one it stands for. Where a label is written from right
to left, every label must be written in one direction.
-/

namespace HttpTest.Domain

open HttpTest.Text

def fitTogether (labels : List (List Char)) : Bool :=
  labels.all isLabel && (!labels.any hasRight || labels.all isOneWay)

def labels? (text : List Char) : Option (List (List Char)) :=
  match mapText? text with
  | none => none
  | some mapped =>
    match (splitAtChar '.' (normalize mapped)).mapM meant? with
    | some labels => if fitTogether labels then some labels else none
    | none => none

def read? (text : List Char) : Option (List Char) := (labels? text).map (joinWith ['.'])

end HttpTest.Domain
