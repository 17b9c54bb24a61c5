import ReportCards.Document.Walk
import ReportCards.Markup.Escape

namespace ReportCards

structure Element where
  tag : String
  id : Option String
  classes : List String
  attributes : List (String × String)
  text : String
  children : List Element

namespace Element

open Markup

def classValue (classes : List String) : List Char :=
  [' '].intercalate (classes.map String.toList)

def attributeMarkup (name : List Char) (value : List Char) : List Char :=
  ' ' :: name ++ ['=', '"'] ++ escapeAttribute value ++ ['"']

def attributesMarkup (id : Option String) (classes : List String)
    (attributes : List (String × String)) : List Char :=
  (match id with
    | some value => attributeMarkup ['i', 'd'] value.toList
    | none => [])
  ++ (if classes = [] then [] else attributeMarkup ['c', 'l', 'a', 's', 's'] (classValue classes))
  ++ attributes.flatMap fun (name, value) => attributeMarkup name.toList value.toList

mutual
def markup : Element → List Char
  | ⟨tag, id, classes, attributes, text, children⟩ =>
      '<' :: tag.toList ++ attributesMarkup id classes attributes ++ ['>']
        ++ escapeText text.toList ++ markupAll children
        ++ ['<', '/'] ++ tag.toList ++ ['>']

def markupAll : List Element → List Char
  | [] => []
  | element :: rest => markup element ++ markupAll rest
end

def innerMarkup (element : Element) : List Char :=
  escapeText element.text.toList ++ markupAll element.children

end Element

namespace Document

variable {κ : Type}

mutual
def elementOf (doc : Document κ) : Subtree → Element
  | .node root branches =>
      { tag := doc.tag root
        id := (doc.attributes root).lookup "id"
        classes := doc.classes root
        attributes := (doc.attributes root).filter (·.1 ≠ "id")
        text := doc.ownText root
        children := doc.elementsOf branches }

def elementsOf (doc : Document κ) : List Subtree → List Element
  | [] => []
  | subtree :: rest => doc.elementOf subtree :: doc.elementsOf rest
end

def element (doc : Document κ) (n : NodeId) : Element :=
  doc.elementOf (doc.subtree n)

def outerHtml (doc : Document κ) (n : NodeId) : String :=
  String.ofList (doc.element n).markup

def innerHtml (doc : Document κ) (n : NodeId) : String :=
  String.ofList (doc.element n).innerMarkup

end Document
end ReportCards
