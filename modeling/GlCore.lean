import GlCore.Formats
import GlCore.Preset
import GlCore.Parameters
import GlCore.Miplevels
import GlCore.CreateFromPreset
import GlCore.Viewport
import GlCore.Driver
import GlCore.Objects
import GlCore.Lifetime
import GlCore.Upload
import GlCore.Session
