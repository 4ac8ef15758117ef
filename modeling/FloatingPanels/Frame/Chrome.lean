import FloatingPanels.Markup.Nodes
/-!
# The usual chrome

Hosts may use chrome of their own, as long as it carries the same classes.
-/

namespace FloatingPanels

namespace Chrome

def button (name title glyph : String) (rest : Nodes) : Nodes :=
  .element "button" [("class", name), ("title", title)] (.text glyph .nil) rest

def handle (direction : String) (rest : Nodes) : Nodes :=
  .element "div" [("class", "handle handle-" ++ direction)] .nil rest

def usual : Element :=
  ⟨"div", [("class", "view")],
    .element "div" [("class", "view-header")]
      (.element "span" [("class", "view-title")] .nil
        (button "view-stick" "Stick" "s" (button "view-hide" "Hide" "_"
          (button "view-maximize" "Maximize" "+" (button "view-close" "Close" "x" .nil)))))
    (.element "div" [("class", "view-content")] .nil
    (.element "div" [("class", "view-footer")]
      (.element "span" [("class", "view-error")] .nil .nil)
    (handle "n" (handle "s" (handle "e" (handle "w"
      (handle "ne" (handle "nw" (handle "se" (handle "sw" .nil))))))))))⟩

end Chrome

end FloatingPanels
