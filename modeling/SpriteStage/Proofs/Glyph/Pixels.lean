import SpriteStage.Glyph.Text

namespace SpriteStage.Glyph

end SpriteStage.Glyph
